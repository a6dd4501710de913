import StoryDirector.Text.Blank
import StoryDirector.Text.Lowercase
/-!
# StoryDirector.Action.Kind

What a player may be trying to do. **Every kind has one name, and reading a label is more generous
than writing one**: case, underscores, hyphens and blanks are ignored and a few short forms are
understood (`ActionKind.ofLabel?`).
-/

namespace StoryDirector

/-- The kinds of player actions. -/
inductive ActionKind where
  /-- Going somewhere. -/
  | movement
  /-- Fighting. -/
  | combat
  /-- Talking to someone. -/
  | dialogue
  /-- Looking for something. -/
  | exploration
  /-- Using a thing. -/
  | itemUse
  /-- Using a skill or a spell. -/
  | skillUse
  /-- Taking up, following or ending a quest. -/
  | quest
  /-- A command to the game itself. -/
  | systemCommand
  /-- Anything else. -/
  | unknown
  deriving DecidableEq, Repr

namespace ActionKind

/-- Every kind, in the order of their definition. -/
def all : List ActionKind :=
  [movement, combat, dialogue, exploration, itemUse, skillUse, quest, systemCommand, unknown]

/-- The name of a kind. -/
def name : ActionKind → String
  | movement => "movement"
  | combat => "combat"
  | dialogue => "dialogue"
  | exploration => "exploration"
  | itemUse => "item_use"
  | skillUse => "skill_use"
  | quest => "quest"
  | systemCommand => "system_command"
  | unknown => "unknown"

/-- The kind with a given name. -/
def ofName? (s : String) : Option ActionKind :=
  all.find? fun kind => kind.name = s

/-- The understood labels, once case and separators are gone. -/
def labels : List (String × ActionKind) :=
  [("movement", movement), ("move", movement), ("combat", combat), ("dialogue", dialogue),
   ("dialog", dialogue), ("exploration", exploration), ("explore", exploration),
   ("itemuse", itemUse), ("item", itemUse), ("skilluse", skillUse), ("skill", skillUse),
   ("quest", quest), ("systemcommand", systemCommand), ("system", systemCommand),
   ("unknown", unknown)]

/-- A label without separators and in lower case, letter by letter. -/
def plainLabel (label : String) : List Char :=
  (label.toList.filter fun c => !(c = '_' || c = '-' || Text.isBlank c)).flatMap Text.lowerChar

/-- The kind that a label means. -/
def ofLabel? (label : String) : Option ActionKind :=
  let plain := plainLabel label
  (labels.find? fun entry => entry.1.toList = plain).map (·.2)

theorem mem_all (kind : ActionKind) : kind ∈ all := by
  cases kind <;> decide

end ActionKind

end StoryDirector
