import StoryDirector.Plan.Order
import StoryDirector.Plan.Template
import StoryDirector.Session
import StoryDirector.Settings
/-!
# StoryDirector.Plan

From an action to a list of tasks that can be run. **The kind of the action chooses the template,
and an anomaly may be put in front of it**: never while an anomaly is still remembered, and
otherwise by a chance that grows with chaos and on milestone turns. The one draw that planning may
need is an argument (`Planner.plan`), so a plan is a function of what it is made from.
-/

namespace StoryDirector

/-- Tasks in the order in which they are run. -/
structure Plan where
  /-- The kind of the action. -/
  kind : ActionKind
  /-- The tasks. -/
  tasks : List Task
  /-- How long all of it is expected to take, in seconds. -/
  estimate : Float

/-- What plans are made with. -/
structure Planner where
  /-- The settings. -/
  settings : PlannerSettings := {}
  /-- The lexicon for classifying actions. -/
  lexicon : Lexicon := Lexicon.standard

namespace Planner

/-- A draw from `[0, 1)` by the upper 24 bits of a random word of 32 bits. -/
def drawOfWord (word : Nat) : Float32 :=
  singleOfBits
    (BinaryFormat.single.ofRatio false (word % Nat.pow 2 32 / Nat.pow 2 8) (Nat.pow 2 24))

/-- The name of the anomaly task. -/
def anomalyName : String := "anomaly_injection"

/-- The priority of the anomaly task, above that of every template task. -/
def anomalyPriority : Int := 5

/-- Whether a turn is a milestone. -/
def isMilestone (settings : PlannerSettings) (turn : Nat) : Bool :=
  decide (0 < settings.milestoneInterval) && decide (turn % settings.milestoneInterval = 0)

/-- The chance that an anomaly is planned. -/
def anomalyChance (settings : PlannerSettings) (session : Session) : Float32 :=
  let chance := settings.baseChance + session.world.chaos * settings.chaosWeight
  if isMilestone settings session.turn then chance + settings.milestoneBonus else chance

/-- The task that injects an anomaly. -/
def anomalyTask (chance : Float32) : Task where
  id := anomalyName
  name := anomalyName
  workers := [.anomalyGenerator]
  mode := .reactive
  estimate := 3
  weight := 0.5
  priority := anomalyPriority
  metadata := [("chance", Json.ofFloat (widen chance))]

/-- The anomaly task, if one is planned. -/
def anomaly? (settings : PlannerSettings) (session : Session) (draw : Float32) : Option Task :=
  if session.hasRecentAnomaly then none
  else
    let chance := anomalyChance settings session
    let injected := match settings.mode with
      | .threshold => decide (chance > settings.threshold)
      | .sampled => decide (draw < chance)
    if injected then some (anomalyTask chance) else none

/-- The plan for an action. -/
def plan (planner : Planner) (action : PlayerAction) (session : Session) (draw : Float32) : Plan :=
  let kind := planner.lexicon.classify action
  let drafted :=
    Template.tasks kind action session.world ++ (anomaly? planner.settings session draw).toList
  let tasks := Task.inOrder drafted
  ⟨kind, tasks, Task.totalEstimate tasks⟩

end Planner

end StoryDirector
