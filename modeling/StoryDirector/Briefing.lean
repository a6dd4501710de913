import StoryDirector.Decimal.Layout
import StoryDirector.Session
import StoryDirector.Worker
/-!
# StoryDirector.Briefing

What a worker is told. **A view of the session is taken between tasks, when nothing else changes it,
and every call of the next task gets that view** together with the action, the task and the
responses so far. Workers never see the session itself.
-/

namespace StoryDirector

/-- How much of the histories goes into a view. -/
structure ViewLimits where
  /-- How many of the latest actions. -/
  actions : Nat := 5
  /-- How many of the latest events. -/
  events : Nat := 5

/-- The circumstances in the world. -/
structure Ambience where
  /-- The time of day as hours and minutes. -/
  timeOfDay : String
  /-- The day. -/
  day : Nat
  /-- The season. -/
  season : Season
  /-- The weather. -/
  weather : Weather
  /-- Whether it is night. -/
  isNight : Bool

/-- The part of a session that workers see. -/
structure SceneView where
  /-- The identity of the session. -/
  session : Uuid
  /-- The number of the turn. -/
  turn : Nat
  /-- Where the player is. -/
  location : String
  /-- How unstable the world is. -/
  chaos : Float32
  /-- The names of those present, in rising order. -/
  npcs : List String
  /-- The texts of the latest actions, oldest first. -/
  actions : List String
  /-- Descriptions of the latest events, oldest first. -/
  events : List String
  /-- The circumstances. -/
  ambience : Ambience

/-- What a worker is told for one call. -/
structure Briefing where
  /-- The name of the task. -/
  task : String
  /-- The action. -/
  action : PlayerAction
  /-- The kind of the action. -/
  kind : ActionKind
  /-- The view of the session. -/
  view : SceneView
  /-- The responses so far. -/
  prior : List Response

/-- A number with at least two digits. -/
def twoDigits (n : Nat) : String :=
  if n < 10 then "0" ++ toString n else toString n

/-- The circumstances in a world. -/
def Ambience.of (world : World) : Ambience where
  timeOfDay := twoDigits world.time.hour ++ ":" ++ twoDigits world.time.minute
  day := world.time.day
  season := world.time.season
  weather := world.weather
  isNight := world.isNight

/-- An event in words. -/
def Event.describe (event : Event) (world : World) : String :=
  let named := (event.detail? "name").getD "Someone"
  match event.kind with
  | .npcSpawn =>
    named ++ " appeared at " ++ (if world.location.isEmpty then "the scene" else world.location)
  | .npcDeath =>
    match event.detail? "killer" with
    | some killer => named ++ " was killed by " ++ killer
    | none => named ++ " has died"
  | .worldEvent | .anomaly =>
    let kind := (event.detail? "kind").getD event.kind.name
    match event.detail? "description" with
    | some description => kind ++ ": " ++ description
    | none => kind
  | .stateChange =>
    match event.payload.fields? with
    | some changes => "state changed: " ++ ", ".intercalate (Dict.names changes)
    | none => "state changed"
  | .questUpdate => (event.detail? "quest").getD "a quest" ++ " was updated"

/-- The view of a session. -/
def SceneView.of (limits : ViewLimits) (session : Session) : SceneView where
  session := session.id
  turn := session.turn
  location := session.world.location
  chaos := session.world.chaos
  npcs := session.world.npcs.names
  actions := (session.actions.last limits.actions).map (·.text)
  events := (session.events.last limits.events).map (·.describe session.world)
  ambience := Ambience.of session.world

namespace Briefing

/-- A heading with one item in each line under it, or nothing without items. -/
def paragraph (heading : String) (items : List String) : String :=
  if items.isEmpty then ""
  else "## " ++ heading ++ "\n" ++ String.join (items.map fun item => "- " ++ item ++ "\n") ++ "\n"

/-- The pieces of the story in the responses so far. -/
def contributions (briefing : Briefing) : List String :=
  briefing.prior.filterMap fun response =>
    response.narrativeText?.map fun text => response.worker.name ++ ": " ++ text

/-- The briefing as a text for a language model. -/
def prompt (briefing : Briefing) : String :=
  let view := briefing.view
  let ambience := view.ambience
  "## Player Action\n[" ++ briefing.kind.name ++ "] " ++ briefing.action.text ++ "\n\n" ++
    "## World State\nTurn " ++ toString view.turn ++ " | Time: " ++ ambience.timeOfDay ++
    " (Day " ++ toString ambience.day ++ "), " ++ (if ambience.isNight then "Night" else "Day") ++
    " " ++ ambience.weather.name ++ " | Chaos: " ++ Float32.twoPlaces view.chaos ++ "\n" ++
    (if view.location.isEmpty then "" else "Location: " ++ view.location ++ "\n") ++ "\n" ++
    paragraph "Present Characters" view.npcs ++
    paragraph "Recent Events" view.events ++
    paragraph "Earlier Contributions" briefing.contributions

end Briefing

end StoryDirector
