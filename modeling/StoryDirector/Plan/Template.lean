import StoryDirector.Action.Lexicon
import StoryDirector.Plan.Task
import StoryDirector.World
/-!
# StoryDirector.Plan.Template

Which tasks an action of each kind takes. **Every template ends in one narrative task that depends
on all the checks before it**; the checks differ by kind, and some are made only when they can
matter: a place is checked when it is new, characters react when there are any, and the world is
updated when a quest ends.
-/

namespace StoryDirector.Template

/-- The priority of what has to be settled first. -/
def checkPriority : Int := 4

/-- The priority of reactions. -/
def reactionPriority : Int := 3

/-- The priority of remembering. -/
def recordPriority : Int := 2

/-- The priority of the story. -/
def narrativePriority : Int := 1

/-- A task that settles something; several workers do it at once. -/
def check (name : String) (workers : List WorkerKind) (priority : Int)
    (dependsOn : List String := []) : Task where
  id := name
  name := name
  workers := workers
  mode := if 1 < workers.length then .parallel else .sequential
  dependsOn := dependsOn
  estimate := 3
  weight := 1
  priority := priority

/-- The task that tells the story. -/
def narrative (name : String) (dependsOn : List String) : Task where
  id := name
  name := name
  workers := [.narrativeWriter]
  mode := .sequential
  dependsOn := dependsOn
  estimate := 4
  weight := 2
  priority := narrativePriority

/-- The destination that an action names. -/
def destination? (action : PlayerAction) : Option String :=
  action.metadataText? "destination"

/-- Whether an action leads somewhere new: its destination was never visited, or, without one, its
words say so. -/
def leadsSomewhereNew (action : PlayerAction) (world : World) : Bool :=
  match destination? action with
  | some place => !world.hasVisited place
  | none => Keyword.anyOccurs action.text noveltyWords

/-- The check of a new place. -/
def environmentCheck (action : PlayerAction) : Task :=
  let task := check "environment_check" [.worldSimulator] checkPriority
  match destination? action with
  | some place => { task with metadata := [("destination", .text place)] }
  | none => task

/-- The tasks of an action. -/
def tasks (kind : ActionKind) (action : PlayerAction) (world : World) : List Task :=
  match kind with
  | .movement =>
    if leadsSomewhereNew action world then
      [environmentCheck action, narrative "movement_narrative" ["environment_check"]]
    else
      [narrative "movement_narrative" []]
  | .combat =>
    if world.npcs.isEmpty then
      [check "combat_resolution" [.rulesAdjudicator] checkPriority,
       narrative "combat_narrative" ["combat_resolution"]]
    else
      [check "combat_resolution" [.rulesAdjudicator] checkPriority,
       check "npc_reaction" [.npcManager] reactionPriority ["combat_resolution"],
       narrative "combat_narrative" ["combat_resolution", "npc_reaction"]]
  | .dialogue =>
    [check "npc_dialogue" [.npcManager] reactionPriority,
     narrative "dialogue_narrative" ["npc_dialogue"]]
  | .exploration =>
    [check "exploration_check" [.worldSimulator, .rulesAdjudicator] checkPriority,
     narrative "exploration_narrative" ["exploration_check"]]
  | .itemUse =>
    [check "item_resolution" [.rulesAdjudicator] checkPriority,
     narrative "item_narrative" ["item_resolution"]]
  | .skillUse =>
    [check "skill_resolution" [.rulesAdjudicator, .worldSimulator] checkPriority,
     narrative "skill_narrative" ["skill_resolution"]]
  | .quest =>
    if Keyword.anyOccurs action.text questCompletionWords then
      [check "quest_progress" [.rulesAdjudicator, .npcManager] checkPriority,
       check "world_impact" [.worldSimulator] reactionPriority ["quest_progress"],
       check "historical_record" [.historian] recordPriority ["quest_progress"],
       narrative "quest_narrative" ["quest_progress", "world_impact", "historical_record"]]
    else
      [check "quest_progress" [.rulesAdjudicator, .npcManager] checkPriority,
       narrative "quest_narrative" ["quest_progress"]]
  | .systemCommand => [narrative "system_response" []]
  | .unknown =>
    [check "generic_resolution" [.rulesAdjudicator] reactionPriority,
     narrative "generic_narrative" ["generic_resolution"]]

end StoryDirector.Template
