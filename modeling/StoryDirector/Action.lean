import StoryDirector.Action.Kind
import StoryDirector.Json
import StoryDirector.Uuid
/-!
# StoryDirector.Action

A player's action as it comes in: **free text, perhaps with a kind chosen by a button, perhaps with
extras** such as a destination. The identity matters only to those who store actions; no rule of the
library looks at it.
-/

namespace StoryDirector

/-- What a player submitted. -/
structure PlayerAction where
  /-- The identity, when the action came with one. -/
  id : Option Uuid := none
  /-- The kind that the player chose explicitly. -/
  kind : Option ActionKind := none
  /-- What the player typed. -/
  text : String
  /-- Extras of the client. -/
  metadata : Dict Json := []

/-- A text among the extras. -/
def PlayerAction.metadataText? (action : PlayerAction) (key : String) : Option String :=
  (Dict.value? action.metadata key).bind Json.text?

end StoryDirector
