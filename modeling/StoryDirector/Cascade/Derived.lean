import StoryDirector.Event
import StoryDirector.Worker
/-!
# StoryDirector.Cascade.Derived

Events that responses imply. **Only responses that count imply events.** There are two sorts: events
derived from what a response changes and flags, and events that the worker reports itself, which are
stamped with the worker's name and the turn where they carry none.
-/

namespace StoryDirector.Cascade

/-- Which flag of which worker stands for which event. -/
def flagEvents : List (WorkerKind × String × EventKind) :=
  [(.worldSimulator, "world_event", .worldEvent),
   (.npcManager, "npc_spawned", .npcSpawn),
   (.npcManager, "npc_died", .npcDeath),
   (.anomalyGenerator, "anomaly", .anomaly)]

/-- The particulars that a flag gives: an object as it is, a text as a name or a kind, and nothing
from anything else. -/
def flagPayload (kind : EventKind) (value : Json) : Json :=
  match value with
  | .object _ => value
  | .text s =>
    match kind with
    | .npcSpawn | .npcDeath => .object [("name", .text s)]
    | _ => .object [("kind", .text s)]
  | _ => .object []

/-- The events derived from one response. -/
def derivedFrom (turn : Nat) (response : Response) : List Event.Draft :=
  let stamped (kind : EventKind) (payload : Json) : Event.Draft := fun id =>
    { id, kind, payload, source := some response.worker.name, turn }
  let changes :=
    if response.stateChanges.isEmpty then []
    else [stamped .stateChange (.object response.stateChanges)]
  let flags := flagEvents.filterMap fun (worker, flag, kind) =>
    if response.worker = worker ∧ response.hasFlag flag then
      some (stamped kind
        (((Dict.value? response.metadata flag).map (flagPayload kind)).getD (.object [])))
    else none
  changes ++ flags

/-- The events derived from some responses in a session that had recorded so many. -/
def derived (responses : List Response) (turn moment : Nat) : List Event :=
  Event.number moment 0 ((successful responses).flatMap (derivedFrom turn))

/-- A reported event with the worker and the turn stamped on it where it has none. -/
def stamp (worker : WorkerKind) (turn : Nat) (event : Event) : Event :=
  { event with
    source := some (event.source.getD worker.name)
    turn := if event.turn = 0 then turn else event.turn }

/-- The events that workers report themselves. -/
def reported (responses : List Response) (turn : Nat) : List Event :=
  (successful responses).flatMap fun response =>
    response.events.map (stamp response.worker turn)

theorem reported_append (a b : List Response) (turn : Nat) :
    reported (a ++ b) turn = reported a turn ++ reported b turn := by
  simp [reported, successful_append]

end StoryDirector.Cascade
