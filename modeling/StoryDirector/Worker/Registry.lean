import StoryDirector.Briefing
/-!
# StoryDirector.Worker.Registry

The workers that can be called. **A worker is a function from what it heard so far and what it is
told now to a reply**, which comes after some time and may be a response, a failure or a crash.
Whatever it is, it becomes a response (`Outcome.response`); a crash of one worker is not the matter
of any other.
-/

namespace StoryDirector

/-- How a call ends. -/
inductive Outcome where
  /-- With a response. -/
  | responded (response : Response)
  /-- With a failure. -/
  | erred (error : WorkerError)
  /-- With a crash, which may leave a message. -/
  | panicked (message : Option String)

/-- What a worker does when it is called. -/
structure Reply where
  /-- How long it takes. -/
  delay : Duration := 0
  /-- How the call ends. -/
  outcome : Outcome

/-- The message of a crash that left none. -/
def unknownPanic : String := "unknown panic"

/-- The response that comes of a call to a worker, with the time that the call took. -/
def Outcome.response (outcome : Outcome) (worker : WorkerKind) (took : Duration) : Response :=
  let given := match outcome with
    | .responded response => response
    | .erred error => Response.failure worker error
    | .panicked message => Response.failure worker (.panicked (message.getD unknownPanic))
  { given with worker, seconds := took.seconds }

/-- A worker. -/
structure Worker where
  /-- Its kind. -/
  kind : WorkerKind
  /-- Its reply to a briefing, given the briefings that it heard before. -/
  reply : (heard : List Briefing) → Briefing → Reply

/-- The workers that can be called, no two of one kind. -/
structure Registry where
  /-- The workers. -/
  workers : List Worker := []

namespace Registry

/-- The worker of a kind. -/
def get? (registry : Registry) (kind : WorkerKind) : Option Worker :=
  registry.workers.find? (·.kind = kind)

/-- Whether there is a worker of a kind. -/
def has (registry : Registry) (kind : WorkerKind) : Bool :=
  (registry.get? kind).isSome

/-- How many workers there are. -/
def size (registry : Registry) : Nat :=
  registry.workers.length

/-- The registry with a worker in place of any of its kind. -/
def register (registry : Registry) (worker : Worker) : Registry where
  workers := registry.workers.filter (·.kind ≠ worker.kind) ++ [worker]

/-- The kinds of the workers, in order. -/
def kinds (registry : Registry) : List WorkerKind :=
  WorkerKind.all.filter registry.has

/-- The registry as a listing of titles. -/
def listing (registry : Registry) : String :=
  "WorkerRegistry \x7b workers: [" ++ ", ".intercalate (registry.kinds.map (·.title)) ++ "] \x7d"

end Registry

end StoryDirector
