import StoryDirector.Run.Execution
import StoryDirector.Run.Ledger
/-!
# StoryDirector.Run

Running the tasks of a plan. **Tasks are run one at a time in the order of the list; each waits for
the tasks it depends on, is worked at, and is fed back into the session before the next one
begins.** A task that fails is recorded as failed and the run goes on. Only cancelling ends a run
early, and it does so at a task's boundary: what is under way is given up and nothing of it reaches
the session.
-/

namespace StoryDirector

/-- A task that is being attempted. -/
inductive Attempt where
  /-- It waits, since an instant, for the tasks it depends on. -/
  | waiting (task : Task) (since : Instant)
  /-- It is at work. -/
  | executing (execution : Execution)

/-- How far a run has come. -/
inductive RunStage where
  /-- A task is being attempted, and others follow. -/
  | busy (attempt : Attempt) (todo : List Task)
  /-- All tasks were attempted. -/
  | finished
  /-- It was cancelled. -/
  | cancelled

/-- A run of a list of tasks for one session. -/
structure Run where
  /-- The action that is answered. -/
  action : PlayerAction
  /-- The kind of the action. -/
  kind : ActionKind
  /-- The session as the finished tasks left it. -/
  session : Session
  /-- How many tasks there are. -/
  total : Nat
  /-- The weight of all tasks. -/
  totalWeight : Float
  /-- The weight of the tasks that are done. -/
  doneWeight : Float := 0
  /-- The results so far. -/
  ledger : Ledger := {}
  /-- What the cascade did so far. -/
  report : CascadeReport := {}
  /-- How far the run has come. -/
  stage : RunStage

namespace Run

/-- The weight of a task; what is not a positive number weighs nothing. -/
def weight (task : Task) : Float :=
  if task.weight > 0 then task.weight else 0

/-- The stage at which some tasks are to be attempted from an instant on. -/
def stageOf (now : Instant) : List Task → RunStage
  | [] => .finished
  | task :: rest => .busy (.waiting task now) rest

/-- A run at its start. -/
def begin (tasks : List Task) (action : PlayerAction) (kind : ActionKind) (session : Session)
    (now : Instant) : Run where
  action := action
  kind := kind
  session := session
  total := tasks.length
  totalWeight := (tasks.map weight).foldl (· + ·) 0
  stage := stageOf now tasks

/-- What the workers of a task are told. -/
def briefing (run : Run) (setup : RunSetup) (task : Task) : Briefing where
  task := task.name
  action := run.action
  kind := run.kind
  view := SceneView.of setup.view run.session
  prior := run.ledger.responses

/-- A task that waits goes on when it can: to its work, or to a result. -/
def lookWaiting (run : Run) (setup : RunSetup) (task : Task) (since : Instant) (engine : Engine) :
    Engine × Standing Attempt :=
  match run.ledger.wait? task.dependsOn setup.limits.dependencyTimeout since engine.now with
  | none => (engine, .going (.waiting task since))
  | some (.error error) => (engine, .over { task, error := some error })
  | some (.ok ()) =>
    let told := engine.notify setup
      (Progress.taskStarted run.session.id task run.ledger.results.length run.total)
    if task.workers.isEmpty then (told, .over { task, error := some .noWorkers })
    else
      let execution := Execution.begin task (run.briefing setup task) told.now
      match execution.look setup told with
      | (engine, .going execution) => (engine, .going (.executing execution))
      | (engine, .over result) => (engine, .over result)

/-- A task does what it can at the present instant. -/
def lookAttempt (run : Run) (setup : RunSetup) (attempt : Attempt) (engine : Engine) :
    Engine × Standing Attempt :=
  match attempt with
  | .waiting task since => run.lookWaiting setup task since engine
  | .executing execution =>
    match execution.look setup engine with
    | (engine, .going execution) => (engine, .going (.executing execution))
    | (engine, .over result) => (engine, .over result)

/-- The share of the work that is done. -/
def share (run : Run) : Float :=
  if run.totalWeight > 0 then run.doneWeight / run.totalWeight
  else doubleOfNat run.ledger.results.length / doubleOfNat run.total

/-- The run with the result of its next task: the contributions are fed back and the result is
recorded. -/
def record (run : Run) (setup : RunSetup) (result : TaskResult) : Run :=
  let (session, report) := setup.cascade.integrate result.responses run.session
  { run with
    session
    report := run.report.absorb report
    ledger := run.ledger.record result
    doneWeight := run.doneWeight + weight result.task }

/-- A task is over: those who watch are told of its failure, if it failed, and of the progress. -/
def close (run : Run) (setup : RunSetup) (result : TaskResult) (engine : Engine) : Engine × Run :=
  let told := match result.error with
    | some error => engine.notify setup (Progress.taskFailed run.session.id result.task error)
    | none => engine
  let run := run.record setup result
  let done := run.ledger.results.length
  let average := told.timings.overall?.getD result.task.estimate
  (told.notify setup
    (Progress.taskDone run.session.id done run.total run.share
      (Progress.remaining done run.total average)),
   run)

/-- Attempts a task and, as long as each is over at once, those after it. -/
def pursue (setup : RunSetup) : (todo : List Task) → Attempt → Engine → Run → Engine × Run
  | todo, attempt, engine, run =>
    match run.lookAttempt setup attempt engine with
    | (engine, .going attempt) => (engine, { run with stage := .busy attempt todo })
    | (engine, .over result) =>
      let (engine, run) := run.close setup result engine
      match todo with
      | [] => (engine, { run with stage := .finished })
      | task :: rest => pursue setup rest (.waiting task engine.now) engine run

/-- What is under way is given up. -/
def abandonAttempt (attempt : Attempt) (engine : Engine) : Engine :=
  match attempt with
  | .waiting _ _ => engine
  | .executing execution => execution.abandon engine

/-- The run does what it can at the present instant; if it is told to stop, it stops first of
all. -/
def look (run : Run) (setup : RunSetup) (cancelled : Bool) (engine : Engine) : Engine × Run :=
  match run.stage with
  | .finished | .cancelled => (engine, run)
  | .busy attempt todo =>
    if cancelled then (abandonAttempt attempt engine, { run with stage := .cancelled })
    else pursue setup todo attempt engine run

/-- The run is given up. -/
def abandon (run : Run) (engine : Engine) : Engine :=
  match run.stage with
  | .finished | .cancelled => engine
  | .busy attempt _ => abandonAttempt attempt engine

/-- Whether the run goes on. -/
def isBusy (run : Run) : Bool :=
  match run.stage with
  | .finished | .cancelled => false
  | .busy _ _ => true

/-- How many steps a task takes at most. -/
def steps (task : Task) : Nat :=
  4 * task.workers.length + 3

/-- How many steps are left at most. -/
def left (run : Run) : Nat :=
  match run.stage with
  | .finished | .cancelled => 0
  | .busy (.waiting task _) todo => steps task + Clockwork.total (todo.map steps)
  | .busy (.executing execution) todo => execution.left + Clockwork.total (todo.map steps)

/-- The next instant at which the run can go on. -/
def alarm (run : Run) (setup : RunSetup) : Option Instant :=
  match run.stage with
  | .finished | .cancelled => none
  | .busy (.waiting _ since) _ => some (since + setup.limits.dependencyTimeout)
  | .busy (.executing execution) _ => execution.alarm setup

@[simp] theorem look_finished {run : Run} (h : run.stage = .finished) (setup : RunSetup)
    (cancelled : Bool) (engine : Engine) : run.look setup cancelled engine = (engine, run) := by
  simp [look, h]

/-- Each task's result is recorded behind those before it. -/
@[simp] theorem results_record (run : Run) (setup : RunSetup) (result : TaskResult) :
    (run.record setup result).ledger.results = run.ledger.results ++ [result] := rfl

end Run

end StoryDirector
