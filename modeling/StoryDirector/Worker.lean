import StoryDirector.Action.Kind
import StoryDirector.Duration
import StoryDirector.Event
import StoryDirector.Text.Blank
/-!
# StoryDirector.Worker

The specialists that contribute to an answer, and what they contribute. **A worker's failure is a
response too**: it says that it failed and why, and it carries nothing that anyone may use. A worker
may also send a full response and mark it as failed; whoever uses responses looks at `success`.
-/

namespace StoryDirector

/-- The kinds of workers. Their order is the order of reports. -/
inductive WorkerKind where
  /-- Writes the story. -/
  | narrativeWriter
  /-- Decides what the rules allow. -/
  | rulesAdjudicator
  /-- Moves the world. -/
  | worldSimulator
  /-- Plays the characters. -/
  | npcManager
  /-- Remembers what happened. -/
  | historian
  /-- Invents anomalies. -/
  | anomalyGenerator
  deriving DecidableEq, Repr

namespace WorkerKind

/-- Every kind, in order. -/
def all : List WorkerKind :=
  [narrativeWriter, rulesAdjudicator, worldSimulator, npcManager, historian, anomalyGenerator]

/-- The name of a kind. -/
def name : WorkerKind → String
  | narrativeWriter => "narrative_writer"
  | rulesAdjudicator => "rules_adjudicator"
  | worldSimulator => "world_simulator"
  | npcManager => "npc_manager"
  | historian => "historian"
  | anomalyGenerator => "anomaly_generator"

/-- The title of a kind, as listings show it. -/
def title : WorkerKind → String
  | narrativeWriter => "NarrativeWriter"
  | rulesAdjudicator => "RulesAdjudicator"
  | worldSimulator => "WorldSimulator"
  | npcManager => "NpcManager"
  | historian => "Historian"
  | anomalyGenerator => "AnomalyGenerator"

/-- The kind with a given name. -/
def ofName? (s : String) : Option WorkerKind :=
  all.find? fun kind => kind.name = s

end WorkerKind

/-- Why a worker gave no response of its own. -/
inductive WorkerError where
  /-- It tried and failed. -/
  | failed (reason : String)
  /-- It could not be reached. -/
  | unavailable (reason : String)
  /-- It took too long. -/
  | timedOut (limit : Duration)
  /-- There is no such worker. -/
  | notRegistered (worker : WorkerKind)
  /-- It crashed. -/
  | panicked (reason : String)

/-- The wording of a worker's failure. -/
def WorkerError.message : WorkerError → String
  | .failed reason => "worker failed: " ++ reason
  | .unavailable reason => "worker unavailable: " ++ reason
  | .timedOut limit => "worker timed out after " ++ Duration.text limit
  | .notRegistered worker => "no worker registered for " ++ worker.name
  | .panicked reason => "worker panicked: " ++ reason

/-- Something that the player may do next. -/
structure Choice where
  /-- What the choice says; two choices of one text are the same. -/
  text : String
  /-- A longer description. -/
  description : Option String := none
  /-- The kind of action that taking the choice submits. -/
  kind : Option ActionKind := none

/-- What a worker contributed to one task. -/
structure Response where
  /-- Who contributed. -/
  worker : WorkerKind
  /-- A piece of the story. -/
  narrative : Option String := none
  /-- Choices for the player. -/
  choices : Option (List Choice) := none
  /-- Changes to the state of the world. -/
  stateChanges : Dict Json := []
  /-- Events that the worker reports itself. -/
  events : List Event := []
  /-- Extras, among them the flags from which events are derived. -/
  metadata : Dict Json := []
  /-- Whether the response counts. -/
  success : Bool := true
  /-- Why it does not count. -/
  errorMessage : Option String := none
  /-- How long the call took, in seconds. -/
  seconds : Float := 0

namespace Response

/-- The response that stands in for a worker that gave none. -/
def failure (worker : WorkerKind) (error : WorkerError) : Response :=
  { worker, success := false, errorMessage := some error.message }

/-- The piece of the story without blanks around it, if anything is left. -/
def narrativeText? (response : Response) : Option String :=
  match response.narrative with
  | none => none
  | some text =>
    let trimmed := Text.trim text
    if trimmed.isEmpty then none else some trimmed

/-- The choices, none when there is no list. -/
def choiceList (response : Response) : List Choice :=
  response.choices.getD []

/-- Whether a flag is set among the extras: truth values speak for themselves, numbers always count,
texts and objects when they are not empty. -/
def hasFlag (response : Response) (key : String) : Bool :=
  match Dict.value? response.metadata key with
  | some (.bool b) => b
  | some (.text s) => !s.isEmpty
  | some (.object fields) => !fields.isEmpty
  | some (.int _) => true
  | some (.float _) => true
  | _ => false

@[simp] theorem success_failure (worker : WorkerKind) (error : WorkerError) :
    (failure worker error).success = false := rfl

@[simp] theorem worker_failure (worker : WorkerKind) (error : WorkerError) :
    (failure worker error).worker = worker := rfl

end Response

/-- The responses that count. -/
def successful (responses : List Response) : List Response :=
  responses.filter (·.success)

@[simp] theorem successful_nil : successful [] = [] := rfl

theorem successful_append (a b : List Response) :
    successful (a ++ b) = successful a ++ successful b := by
  simp [successful]

end StoryDirector
