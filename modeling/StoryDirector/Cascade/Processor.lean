import StoryDirector.Session
/-!
# StoryDirector.Cascade.Processor

What one event does to a session. **A processor is a function: it takes an event and a session, and
gives back the session as it left it together with the follow-up events or an error.** Both come
back in either case, since a processor may change the session before it fails.

`worldProcessor` is the standard one: it keeps the world in step with the events, raises an anomaly
when chaos reaches a threshold from below, and lets a death shake the world.
-/

namespace StoryDirector

/-- What is wrong with the particulars of an event. -/
inductive PayloadFault where
  /-- They are no object. -/
  | notAnObject
  /-- The chaos level is no number. -/
  | chaosLevel
  /-- The location is no text. -/
  | location
  /-- There is no name. -/
  | missingName
  /-- The change of chaos is no number. -/
  | chaosDelta
  deriving DecidableEq

/-- The wording of a fault. -/
def PayloadFault.reason : PayloadFault → String
  | .notAnObject => "expected an object"
  | .chaosLevel => "chaos_level must be a number"
  | .location => "location must be a string"
  | .missingName => "missing name"
  | .chaosDelta => "chaos_delta must be a number"

/-- Why an event could not be processed. -/
inductive CascadeError where
  /-- Its particulars make no sense. -/
  | malformed (kind : EventKind) (fault : PayloadFault)
  /-- The processor gave up. -/
  | processing (reason : String)

/-- The wording of a failure to process an event. -/
def CascadeError.message : CascadeError → String
  | .malformed kind fault => "malformed " ++ kind.name ++ " payload: " ++ fault.reason
  | .processing reason => "event processing failed: " ++ reason

/-- Applies an event to a session. -/
abbrev Processor := Event → Session → Session × Except CascadeError (List Event)

namespace Cascade

/-- The source of follow-up events. -/
def ownSource : String := "cascade"

/-- The chaos that a death adds. -/
def deathChaos : Float := 0.05

/-- The anomaly that chaos raises on its way up across the threshold, at a place among the events
made at one moment. -/
def surge (threshold : Float32) (place : Nat) (before : Float32) (session : Session) : List Event :=
  let chaos := session.world.chaos
  if before < threshold ∧ threshold ≤ chaos then
    [{ id := .made session.recorded place
       kind := .anomaly
       payload := Json.ofEntries
         [("kind", .text "chaos_surge"), ("chaos_level", Json.ofFloat (widen chaos))]
       source := some ownSource
       turn := session.turn }]
  else []

/-- The session with another world. -/
def withWorld (session : Session) (change : World → World) : Session :=
  { session with world := change session.world }

/-- Changes the chaos of a session and notices a surge. -/
def moveChaos (threshold : Float32) (place : Nat) (session : Session) (change : World → World) :
    Session × List Event :=
  let moved := withWorld session change
  (moved, surge threshold place session.world.chaos moved)

/-- Applies the changes of a state change one by one. The first that cannot be applied ends it, and
what was applied before stays. -/
def applyChanges (threshold : Float32) (session : Session) :
    (found : List Event) → List (String × Json) → Session × Except CascadeError (List Event)
  | found, [] => (session, .ok found)
  | found, (key, value) :: rest =>
    if key = "chaos_level" then
      match value.number? with
      | none => (session, .error (.malformed .stateChange .chaosLevel))
      | some level =>
        let (moved, surges) :=
          moveChaos threshold found.length session (·.setChaos (narrow level))
        applyChanges threshold moved (found ++ surges) rest
    else if key = "location" ∨ key = "current_location" then
      match value.text? with
      | none => (session, .error (.malformed .stateChange .location))
      | some place =>
        applyChanges threshold (withWorld session (·.enter place)) found rest
    else
      match Flag.ofJson? value with
      | none => applyChanges threshold session found rest
      | some flag => applyChanges threshold (withWorld session (·.setFlag key flag)) found rest

/-- Processes a change of state. -/
def stateChange (threshold : Float32) : Processor := fun event session =>
  match event.payload.fields? with
  | none => (session, .error (.malformed event.kind .notAnObject))
  | some changes => applyChanges threshold session [] changes

/-- Processes an appearance. -/
def npcSpawn : Processor := fun event session =>
  match event.detail? "name" with
  | none => (session, .error (.malformed event.kind .missingName))
  | some name =>
    let disposition := ((event.detail? "disposition").bind Disposition.ofLabel?).getD .neutral
    let appearing : Npc.Draft := fun id => { id, name, disposition, spawnedTurn := session.turn }
    (withWorld session fun world => world.spawn (appearing world.npcs.freshId), .ok [])

/-- The event that follows the death of someone in the scene. -/
def fallen (id : EventId) (name : String) (turn : Nat) : Event where
  id := id
  kind := .worldEvent
  payload := Json.ofEntries
    [("kind", .text "npc_fallen"), ("name", .text name), ("chaos_delta", Json.ofFloat deathChaos)]
  source := some ownSource
  turn := turn

/-- Processes a death. Only someone in the scene can fall. -/
def npcDeath : Processor := fun event session =>
  match event.detail? "name" with
  | none => (session, .error (.malformed event.kind .missingName))
  | some name =>
    match session.world.npcs.remove name with
    | none => (session, .ok [])
    | some (_, left) =>
      (withWorld session fun world => { world with npcs := left },
       .ok [fallen (.made session.recorded 0) name session.turn])

/-- Processes a world event: the player may be moved, and chaos may change. -/
def worldEvent (threshold : Float32) : Processor := fun event session =>
  let arrived := match event.detail? "location" with
    | some place => withWorld session (·.enter place)
    | none => session
  match event.payload.field? "chaos_delta" with
  | none => (arrived, .ok [])
  | some value =>
    match value.number? with
    | none => (arrived, .error (.malformed event.kind .chaosDelta))
    | some delta =>
      let (moved, surges) := moveChaos threshold 0 arrived (·.shiftChaos (narrow delta))
      (moved, .ok surges)

/-- Processes an anomaly, which leaves a mark of its turn. -/
def anomaly : Processor := fun _ session =>
  (withWorld session (·.setFlag "last_anomaly_turn" (.int session.turn)), .ok [])

/-- Processes news of a quest. -/
def questUpdate : Processor := fun event session =>
  match event.detail? "quest", event.detail? "status" with
  | some quest, some status =>
    (withWorld session (·.setFlag ("quest:" ++ quest) (.text status)), .ok [])
  | _, _ => (session, .ok [])

/-- The standard processor. -/
def worldProcessor (threshold : Float32) : Processor := fun event session =>
  match event.kind with
  | .stateChange => stateChange threshold event session
  | .npcSpawn => npcSpawn event session
  | .npcDeath => npcDeath event session
  | .worldEvent => worldEvent threshold event session
  | .anomaly => anomaly event session
  | .questUpdate => questUpdate event session

end Cascade

end StoryDirector
