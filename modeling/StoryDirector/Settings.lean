import StoryDirector.Dict
import StoryDirector.Duration
/-!
# StoryDirector.Settings

Everything that can be set. **The defaults stand beside the fields**; where a value comes from (a
file, the environment) and which values are acceptable is the matter of `Settings.Loading`,
`Settings.Environment` and `Settings.Validation`.
-/

namespace StoryDirector

/-- The response cache. -/
structure CacheSettings where
  /-- Seconds that a response stays in the cache. -/
  ttlSeconds : Nat := 300
  /-- How many responses the cache holds. -/
  maxEntries : Nat := 1024

/-- The span that a response stays in the cache. -/
def CacheSettings.ttl (settings : CacheSettings) : Duration :=
  Duration.ofSeconds settings.ttlSeconds

/-- The running of plans. -/
structure RunSettings where
  /-- Seconds that a task waits for the tasks it depends on. -/
  dependencyTimeoutSeconds : Nat := 30
  /-- Seconds that one task may take. -/
  taskDeadlineSeconds : Nat := 120
  /-- How many call durations are kept per worker. -/
  statsWindow : Nat := 10

/-- The span that a task waits for the tasks it depends on. -/
def RunSettings.dependencyTimeout (settings : RunSettings) : Duration :=
  Duration.ofSeconds settings.dependencyTimeoutSeconds

/-- The span that one task may take. -/
def RunSettings.taskDeadline (settings : RunSettings) : Duration :=
  Duration.ofSeconds settings.taskDeadlineSeconds

/-- How it is decided whether an anomaly is planned. -/
inductive InjectionMode where
  /-- When the chance exceeds a threshold. -/
  | threshold
  /-- With the chance as probability. -/
  | sampled
  deriving DecidableEq, Repr

namespace InjectionMode

/-- Every mode, in the order of their definition. -/
def all : List InjectionMode := [threshold, sampled]

/-- The name of a mode. -/
def name : InjectionMode → String
  | threshold => "threshold"
  | sampled => "sampled"

/-- The mode with a given name. -/
def ofName? (s : String) : Option InjectionMode :=
  all.find? fun mode => mode.name = s

end InjectionMode

/-- The planning of tasks. -/
structure PlannerSettings where
  /-- How it is decided whether an anomaly is planned. -/
  mode : InjectionMode := .threshold
  /-- The chance of an anomaly in a calm world. -/
  baseChance : Float32 := 0.15
  /-- What a fully chaotic world adds to the chance. -/
  chaosWeight : Float32 := 0.3
  /-- Every so many turns the chance is raised; zero means never. -/
  milestoneInterval : Nat := 5
  /-- What such a turn adds to the chance. -/
  milestoneBonus : Float32 := 0.05
  /-- The chance above which an anomaly is planned. -/
  threshold : Float32 := 0.3

/-- The event cascade. -/
structure CascadeSettings where
  /-- How many rounds of follow-up events are processed. -/
  maxChainDepth : Nat := 3
  /-- The priority from which an event is significant. -/
  significantPriority : Int := 3
  /-- The chaos level that raises an anomaly when it is reached from below. -/
  surgeThreshold : Float32 := 0.8

/-- The merging of responses. -/
structure MergeSettings where
  /-- How many choices the player is given. -/
  maxChoices : Nat := 4
  /-- The story when no worker tells one. -/
  placeholder : String :=
    "The world holds its breath. Nothing seems to change, yet something stirs just out of sight."

/-- The memory of sessions. -/
structure SessionSettings where
  /-- How many actions are remembered. -/
  recentActions : Nat := 10
  /-- How many events are remembered. -/
  recentEvents : Nat := 20

/-- The log. -/
structure LogSettings where
  /-- The level of the log. -/
  level : String := "info"
  /-- Whether log lines are JSON. -/
  json : Bool := false
  /-- Levels of single modules. -/
  moduleLevels : Dict String := []

/-- Everything that can be set. -/
structure Settings where
  /-- The response cache. -/
  cache : CacheSettings := {}
  /-- The running of plans. -/
  run : RunSettings := {}
  /-- The planning of tasks. -/
  planner : PlannerSettings := {}
  /-- The event cascade. -/
  cascade : CascadeSettings := {}
  /-- The merging of responses. -/
  merge : MergeSettings := {}
  /-- The memory of sessions. -/
  session : SessionSettings := {}
  /-- The log. -/
  log : LogSettings := {}

end StoryDirector
