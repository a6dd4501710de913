import StoryDirector.Plan.Task
import StoryDirector.Uuid
/-!
# StoryDirector.Progress

News of a run for whoever watches it. **Notices are sent and forgotten: a sink that refuses one
changes nothing about the run.** The bar starts at `schedulingFloor` once a plan is made, and the
tasks move it over `schedulingSpan` by their weights.
-/

namespace StoryDirector

/-- The kinds of notices. -/
inductive NoticeKind where
  /-- The run came forward. -/
  | progress
  /-- A worker was called. -/
  | workerCallStarted
  /-- A task was begun. -/
  | taskStarted
  /-- The run ended well. -/
  | completed
  /-- Something failed. -/
  | error
  deriving DecidableEq, Repr

namespace NoticeKind

/-- Every kind, in the order of their definition. -/
def all : List NoticeKind := [progress, workerCallStarted, taskStarted, completed, error]

/-- The name of a kind. -/
def name : NoticeKind → String
  | progress => "progress"
  | workerCallStarted => "worker-call-started"
  | taskStarted => "task-started"
  | completed => "completed"
  | error => "error"

/-- The kind with a given name. -/
def ofName? (s : String) : Option NoticeKind :=
  all.find? fun kind => kind.name = s

end NoticeKind

/-- One piece of news. -/
structure Notice where
  /-- What kind of news it is. -/
  kind : NoticeKind
  /-- The session that it is about. -/
  session : Uuid
  /-- The news in words. -/
  message : String
  /-- How far the run has come. -/
  percent : Option Float := none
  /-- How many seconds are left. -/
  eta : Option Float := none
  /-- The particulars. -/
  details : Option Json := none

namespace Progress

/-- How far a run has come when its plan is made. -/
def schedulingFloor : Float := 10

/-- How much of the bar belongs to the tasks. -/
def schedulingSpan : Float := 80

/-- The share of work that is done, from `floor` for none to a hundred for all of it. -/
def linear (done total : Nat) (floor : Float) : Float :=
  if total = 0 then 100
  else floor + (100 - floor) * (doubleOfNat (min done total) / doubleOfNat total)

/-- The seconds left when every unit of work takes as long as the average. -/
def remaining (done total : Nat) (average : Float) : Float :=
  average * doubleOfNat (total - done)

/-- How far a run has come when a share of the weights is done. -/
def schedulingPercent (share : Float) : Float :=
  let clamped := if share < 0 then 0 else if share > 1 then 1 else share
  schedulingFloor + clamped * schedulingSpan

/-- A plan was made. -/
def planned (session : Uuid) (tasks : List Task) (estimate : Float) : Notice where
  kind := .progress
  session := session
  message := "Planned " ++ toString tasks.length ++ " tasks"
  percent := some schedulingFloor
  eta := some estimate
  details := some (.object [("tasks", .array (tasks.map fun task => .text task.name))])

/-- A task was begun. -/
def taskStarted (session : Uuid) (task : Task) (index total : Nat) : Notice where
  kind := .taskStarted
  session := session
  message := "Starting " ++ task.name
  details := some (Json.ofEntries
    [("task", .text task.name), ("index", .int index), ("total", .int total),
     ("workers", .array (task.workers.map fun worker => .text worker.name))])

/-- A worker was called. -/
def workerCalled (session : Uuid) (worker : WorkerKind) (task : String) : Notice where
  kind := .workerCallStarted
  session := session
  message := worker.name ++ " is working on " ++ task
  details := some (Json.ofEntries [("worker", .text worker.name), ("task", .text task)])

/-- A task failed. -/
def taskFailed (session : Uuid) (task : Task) (error : TaskError) : Notice where
  kind := .error
  session := session
  message := task.name ++ " failed: " ++ error.message
  details := some (.object [("task", .text task.name)])

/-- A task was done. -/
def taskDone (session : Uuid) (done total : Nat) (share eta : Float) : Notice where
  kind := .progress
  session := session
  message := toString done ++ "/" ++ toString total ++ " tasks done"
  percent := some (schedulingPercent share)
  eta := some eta
  details := some (Json.ofEntries
    [("tasks_done", .int done), ("tasks_total", .int total),
     ("task_percent", Json.ofFloat (linear done total 0))])

/-- The run ended well. -/
def completed (session : Uuid) (tasks : Nat) : Notice where
  kind := .completed
  session := session
  message := "Finished " ++ toString tasks ++ " tasks"
  percent := some 100
  eta := some 0

/-- The run was cancelled. -/
def cancelled (session : Uuid) : Notice where
  kind := .error
  session := session
  message := "Cancelled"

end Progress

end StoryDirector
