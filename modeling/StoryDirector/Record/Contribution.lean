import StoryDirector.Plan.Task
import StoryDirector.Record.Session
/-!
# StoryDirector.Record.Contribution

The written form of tasks and of what workers contribute to them. **A response is read with nothing
in its changes, events and extras when they are missing; whether it counts has to be said.**
-/

namespace StoryDirector

/-- A choice. -/
def Choice.record (choice : Choice) : Json :=
  Json.ofEntries
    [("text", .text choice.text),
     ("description", .orNull .text choice.description),
     ("action_kind", .orNull (.text ·.name) choice.kind)]

/-- The choice that a record holds. -/
def Choice.ofRecord? (j : Json) : Option Choice := do
  let fields ← Fields.of? .json 3 j
  let text ← fields.required 0 "text" Json.text?
  let description ← fields.optional 1 "description" Json.text?
  let kind ← fields.optional 2 "action_kind" (Json.named? .json ActionKind.ofName?)
  some { text, description, kind }

/-- The worker that a name means. -/
def WorkerKind.ofRecord? : Json → Option WorkerKind :=
  Json.named? .json WorkerKind.ofName?

/-- A response. -/
def Response.record (response : Response) : Json :=
  Json.ofEntries
    [("worker_id", .text response.worker.name),
     ("narrative", .orNull .text response.narrative),
     ("choices", .orNull (.ofList Choice.record) response.choices),
     ("state_changes", .object response.stateChanges),
     ("events", .ofList Event.record response.events),
     ("metadata", .object response.metadata),
     ("success", .bool response.success),
     ("error_message", .orNull .text response.errorMessage),
     ("processing_seconds", .ofFloat response.seconds)]

/-- The response that a record holds. -/
def Response.ofRecord? (j : Json) : Option Response := do
  let fields ← Fields.of? .json 9 j
  let worker ← fields.required 0 "worker_id" WorkerKind.ofRecord?
  let narrative ← fields.optional 1 "narrative" Json.text?
  let choices ← fields.optional 2 "choices" (Json.list? Choice.ofRecord?)
  let stateChanges ← fields.orElse 3 "state_changes" Json.fields? []
  let events ← fields.orElse 4 "events" (Json.list? Event.ofRecord?) []
  let metadata ← fields.orElse 5 "metadata" Json.fields? []
  let success ← fields.required 6 "success" Json.truth?
  let errorMessage ← fields.optional 7 "error_message" Json.text?
  let seconds ← fields.required 8 "processing_seconds" Json.number?
  some { worker, narrative, choices, stateChanges, events, metadata, success, errorMessage,
         seconds }

/-- A task. -/
def Task.record (task : Task) : Json :=
  Json.ofEntries
    [("id", .text task.id),
     ("name", .text task.name),
     ("required_workers", .ofList (.text ·.name) task.workers),
     ("mode", .text task.mode.name),
     ("depends_on", .ofList .text task.dependsOn),
     ("estimated_seconds", .ofFloat task.estimate),
     ("progress_weight", .ofFloat task.weight),
     ("priority", .int task.priority),
     ("metadata", .object task.metadata)]

/-- The task that a record holds. -/
def Task.ofRecord? (j : Json) : Option Task := do
  let fields ← Fields.of? .json 9 j
  let id ← fields.required 0 "id" Json.text?
  let name ← fields.required 1 "name" Json.text?
  let workers ← fields.required 2 "required_workers" (Json.list? WorkerKind.ofRecord?)
  let mode ← fields.required 3 "mode" (Json.named? .json Mode.ofName?)
  let dependsOn ← fields.required 4 "depends_on" (Json.list? Json.text?)
  let estimate ← fields.required 5 "estimated_seconds" Json.number?
  let weight ← fields.required 6 "progress_weight" Json.number?
  let priority ← fields.required 7 "priority" (Json.integer? 32)
  let metadata ← fields.required 8 "metadata" Json.fields?
  some { id, name, workers, mode, dependsOn, estimate, weight, priority, metadata }

end StoryDirector
