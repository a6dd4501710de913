import StoryDirector.Cache.Inquiry
import StoryDirector.Cascade
import StoryDirector.Progress.Broadcast
import StoryDirector.Worker.Registry
import StoryDirector.Worker.Timings
/-!
# StoryDirector.Run.Engine

What all runs share. **`RunSetup` never changes, `Engine` changes with every step of every run**:
the clock, the cache with the work under way, the call durations, and two records that only grow,
the calls that workers heard and the notices that were sent.
-/

namespace StoryDirector

/-- What runs are set up with. -/
structure RunSetup where
  /-- The workers. -/
  registry : Registry := {}
  /-- The limits of time. -/
  limits : RunSettings := {}
  /-- How much of a session's histories workers see. -/
  view : ViewLimits := {}
  /-- How contributions are fed back into the session. -/
  cascade : CascadeRules
  /-- What the receiver of notices refuses. -/
  refusal : Notice → Option SinkError := fun _ => none

/-- A briefing that a worker heard. -/
structure Hearing where
  /-- The worker. -/
  worker : WorkerKind
  /-- The briefing. -/
  briefing : Briefing

/-- What changes with every step of every run. -/
structure Engine where
  /-- The clock. -/
  now : Instant := 0
  /-- The cache and the work under way. -/
  store : Store
  /-- The call durations. -/
  timings : Timings
  /-- What workers heard, in order. -/
  hearings : List Hearing := []
  /-- The notices that were sent, in order. -/
  notices : List Notice := []
  /-- How many of the notices were refused. -/
  refused : Nat := 0

namespace Engine

/-- An engine at the start of the clock. -/
def create (cache : CacheSettings) (limits : RunSettings) : Engine where
  store := { cache := Cache.create cache.ttl cache.maxEntries }
  timings := Timings.create limits.statsWindow

/-- Sends a notice. A refusal is counted and has no other effect. -/
def notify (engine : Engine) (setup : RunSetup) (notice : Notice) : Engine :=
  { engine with
    notices := engine.notices ++ [notice]
    refused := engine.refused + (setup.refusal notice).toList.length }

/-- The briefings that a worker heard so far. -/
def heardBy (engine : Engine) (worker : WorkerKind) : List Briefing :=
  (engine.hearings.filter (·.worker = worker)).map (·.briefing)

end Engine

end StoryDirector
