import StoryDirector.Text.Quoted
import StoryDirector.Worker
/-!
# StoryDirector.Plan.Task

Tasks and their results. **A task names the workers it needs, how they are run and the tasks it
depends on; its result holds the responses and, if it failed, the one reason why.** Whether a result
is a success is not stored apart from the reason (`TaskResult.succeeded`).
-/

namespace StoryDirector

/-- How the workers of a task are run. -/
inductive Mode where
  /-- All at once. -/
  | parallel
  /-- One after another, each seeing those before it. -/
  | sequential
  /-- One after another, reacting to all that is known. -/
  | reactive
  /-- All at once; a strict majority has to succeed. -/
  | consensus
  deriving DecidableEq, Repr

namespace Mode

/-- Every mode, in the order of their definition. -/
def all : List Mode := [parallel, sequential, reactive, consensus]

/-- The name of a mode. -/
def name : Mode → String
  | parallel => "parallel"
  | sequential => "sequential"
  | reactive => "reactive"
  | consensus => "consensus"

/-- The mode with a given name. -/
def ofName? (s : String) : Option Mode :=
  all.find? fun mode => mode.name = s

/-- Whether all workers run at once. -/
def isConcurrent : Mode → Bool
  | parallel => true
  | consensus => true
  | sequential => false
  | reactive => false

end Mode

/-- A piece of work in a plan. -/
structure Task where
  /-- The identity, by which other tasks depend on it. -/
  id : String
  /-- The name. -/
  name : String
  /-- The workers needed, in order; a worker may be needed more than once. -/
  workers : List WorkerKind := []
  /-- How the workers are run. -/
  mode : Mode
  /-- The identities of the tasks that have to be done before. -/
  dependsOn : List String := []
  /-- How long the task is expected to take, in seconds. -/
  estimate : Float := 1
  /-- The share of the task in the progress of the plan. -/
  weight : Float := 1
  /-- Higher runs earlier. -/
  priority : Int := 0
  /-- Extras. -/
  metadata : Dict Json := []

/-- Why a task failed. -/
inductive TaskError where
  /-- Tasks that it depends on were not done in time. -/
  | dependencyTimeout (missing : List String) (limit : Duration)
  /-- It took too long. -/
  | deadlineExceeded (limit : Duration)
  /-- No worker succeeded. -/
  | allWorkersFailed
  /-- Too few workers succeeded. -/
  | noConsensus (succeeded total : Nat)
  /-- It needs no worker. -/
  | noWorkers

namespace TaskError

/-- A list of task identities. -/
def listing (ids : List String) : String :=
  "[" ++ ", ".intercalate (ids.map fun id => "TaskId(" ++ Text.quoted id ++ ")") ++ "]"

/-- The wording of a failure. -/
def message : TaskError → String
  | .dependencyTimeout missing limit =>
    "dependencies not resolved within " ++ Duration.text limit ++ ": " ++ listing missing
  | .deadlineExceeded limit => "task exceeded its deadline of " ++ Duration.text limit
  | .allWorkersFailed => "all workers failed"
  | .noConsensus succeeded total =>
    "no consensus: " ++ toString succeeded ++ " of " ++ toString total ++ " workers succeeded"
  | .noWorkers => "task requires no workers"

end TaskError

/-- What came of a task. -/
structure TaskResult where
  /-- The task. -/
  task : Task
  /-- The responses, one for each call. -/
  responses : List Response := []
  /-- How long it took, in seconds. -/
  seconds : Float := 0
  /-- Why it failed, if it did. -/
  error : Option TaskError := none

namespace TaskResult

/-- Whether the task did not fail. -/
def succeeded (result : TaskResult) : Bool :=
  result.error.isNone

/-- The responses that count. -/
def successful (result : TaskResult) : List Response :=
  StoryDirector.successful result.responses

end TaskResult

/-- All responses of some results, in order. -/
def responsesOf (results : List TaskResult) : List Response :=
  results.flatMap (·.responses)

end StoryDirector
