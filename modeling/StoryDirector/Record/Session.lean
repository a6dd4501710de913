import StoryDirector.Record.World
import StoryDirector.Session
/-!
# StoryDirector.Record.Session

The written form of actions, events and sessions. **Written actions and events have identities**,
and a session is written with the limits of its histories, as they are.
-/

namespace StoryDirector

/-- An action. -/
def PlayerAction.record (action : PlayerAction) : Json :=
  Json.ofEntries
    [("id", .orNull .ofUuid action.id),
     ("kind", .orNull (.text ·.name) action.kind),
     ("text", .text action.text),
     ("metadata", .object action.metadata)]

/-- The action that a record holds. -/
def PlayerAction.ofRecord? (j : Json) : Option PlayerAction := do
  let fields ← Fields.of? .json 4 j
  let id ← fields.required 0 "id" Json.uuid?
  let kind ← fields.optional 1 "kind" (Json.named? .json ActionKind.ofName?)
  let text ← fields.required 2 "text" Json.text?
  let metadata ← fields.orElse 3 "metadata" Json.fields? []
  some { id := some id, kind, text, metadata }

/-- An event. -/
def Event.record (event : Event) : Json :=
  Json.ofEntries
    [("id", .orNull .ofUuid event.id.uuid?),
     ("event_type", .text event.kind.name),
     ("priority", .int event.priority),
     ("payload", event.payload),
     ("source", .orNull .text event.source),
     ("turn", .ofNat event.turn)]

/-- The event that a record holds. -/
def Event.ofRecord? (j : Json) : Option Event := do
  let fields ← Fields.of? .json 6 j
  let id ← fields.required 0 "id" Json.uuid?
  let kind ← fields.required 1 "event_type" (Json.named? .json EventKind.ofName?)
  let priority ← fields.required 2 "priority" (Json.integer? 32)
  let payload ← fields.required 3 "payload" some
  let source ← fields.optional 4 "source" Json.text?
  let turn ← fields.required 5 "turn" (Json.natural? 32)
  some { id := .known id, kind, priority, payload, source, turn }

/-- The snapshot that a record holds. -/
def Snapshot.ofRecord? (j : Json) : Option Snapshot := do
  let fields ← Fields.of? .json 2 j
  let turn ← fields.required 0 "turn_number" (Json.natural? 32)
  let world ← fields.required 1 "world" World.ofRecord?
  some { turn, world }

/-- The session that a record holds. -/
def Session.ofRecord? (j : Json) : Option Session := do
  let fields ← Fields.of? .json 7 j
  let id ← fields.required 0 "session_id" Json.uuid?
  let turn ← fields.required 1 "turn_number" (Json.natural? 32)
  let actions ← fields.required 2 "recent_player_actions" (Json.list? PlayerAction.ofRecord?)
  let events ← fields.required 3 "recent_events" (Json.list? Event.ofRecord?)
  let world ← fields.required 4 "world" World.ofRecord?
  let actionLimit ← fields.required 5 "action_limit" (Json.natural? 64)
  let eventLimit ← fields.required 6 "event_limit" (Json.natural? 64)
  some { id, turn, actions := ⟨actionLimit, actions⟩, events := ⟨eventLimit, events⟩, world }

end StoryDirector
