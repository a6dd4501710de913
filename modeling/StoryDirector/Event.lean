import StoryDirector.Json
import StoryDirector.Uuid
/-!
# StoryDirector.Event

The record of something that happened. **An event has an identity, a kind, a priority and a free
payload**; who caused it and on which turn is stamped on it on the way into the session. The anomaly
family, which keeps new anomalies from being planned, is wider than the kind `anomaly`: world events
may belong to it by their payload (`Event.isAnomalous`).

An event that comes about in a session gets a new identity there: how many events the session had
recorded by then, and its place among those made at that moment (`EventId.made`). Whoever passes an
event on passes its identity on with it.
-/

namespace StoryDirector

/-- The kinds of events. -/
inductive EventKind where
  /-- The state of the world was changed. -/
  | stateChange
  /-- Something befell the world. -/
  | worldEvent
  /-- A character appeared. -/
  | npcSpawn
  /-- A character died. -/
  | npcDeath
  /-- Reality slipped. -/
  | anomaly
  /-- A quest moved on. -/
  | questUpdate
  deriving DecidableEq, Repr

namespace EventKind

/-- Every kind, in the order of their definition. -/
def all : List EventKind :=
  [stateChange, worldEvent, npcSpawn, npcDeath, anomaly, questUpdate]

/-- The name of a kind. -/
def name : EventKind → String
  | stateChange => "state_change"
  | worldEvent => "world_event"
  | npcSpawn => "npc_spawn"
  | npcDeath => "npc_death"
  | anomaly => "anomaly"
  | questUpdate => "quest_update"

/-- The kind with a given name. -/
def ofName? (s : String) : Option EventKind :=
  all.find? fun kind => kind.name = s

/-- The priority that an event of a kind has unless told otherwise. -/
def defaultPriority : EventKind → Int
  | stateChange => 1
  | npcSpawn => 2
  | questUpdate => 2
  | worldEvent => 3
  | npcDeath => 3
  | anomaly => 4

end EventKind

/-- The identity of an event. -/
inductive EventId where
  /-- An identity that came from outside. -/
  | known (id : Uuid)
  /-- An identity given when a session had recorded so many events, to one of those made then. -/
  | made (moment place : Nat)
  deriving DecidableEq

/-- The identity as it is written; one that was given in a session has no such form. -/
def EventId.uuid? : EventId → Option Uuid
  | .known id => some id
  | .made _ _ => none

/-- Something that happened. -/
structure Event where
  /-- The identity. -/
  id : EventId
  /-- What kind of thing happened. -/
  kind : EventKind
  /-- How significant it is; higher is more. -/
  priority : Int := kind.defaultPriority
  /-- The particulars. -/
  payload : Json := .null
  /-- Whose output caused it. -/
  source : Option String := none
  /-- The turn on which it happened; zero until stamped. -/
  turn : Nat := 0

namespace Event

/-- A text among the particulars. -/
def detail? (event : Event) (key : String) : Option String :=
  event.payload.textField? key

/-- How the kind of an anomalous world event begins. -/
def anomalyMark : String := "anomaly"

/-- Whether the event belongs to the anomaly family. -/
def isAnomalous (event : Event) : Bool :=
  match event.kind with
  | .anomaly => true
  | .worldEvent =>
    match event.detail? "kind" with
    | some kind => anomalyMark.toList.isPrefixOf kind.toList
    | none => false
  | _ => false

/-- An event that has no identity yet. -/
abbrev Draft := EventId → Event

/-- Events made at one moment, each under an identity of its own. -/
def number (moment : Nat) : (place : Nat) → List Draft → List Event
  | _, [] => []
  | place, draft :: rest => draft (.made moment place) :: number moment (place + 1) rest

theorem number_append (moment place : Nat) (first second : List Draft) :
    number moment place (first ++ second) =
      number moment place first ++ number moment (place + first.length) second := by
  induction first generalizing place with
  | nil => rfl
  | cons draft rest ih =>
    rw [List.cons_append, number, number, ih, List.length_cons, Nat.add_right_comm, Nat.add_assoc,
      List.cons_append]

theorem length_number (moment place : Nat) (drafts : List Draft) :
    (number moment place drafts).length = drafts.length := by
  induction drafts generalizing place with
  | nil => rfl
  | cons draft rest ih => rw [number, List.length_cons, ih, List.length_cons]

/-- What does not depend on identities can be told before they are given. -/
theorem map_number {α : Type} {field : Event → α} {drafts : List Draft}
    (h : ∀ draft ∈ drafts, ∀ id other, field (draft id) = field (draft other)) (id : EventId)
    (moment place : Nat) :
    (number moment place drafts).map field = drafts.map fun draft => field (draft id) := by
  induction drafts generalizing place with
  | nil => rfl
  | cons draft rest ih =>
    rw [number, List.map_cons, List.map_cons, h draft List.mem_cons_self _ id,
      ih fun other hother => h other (List.mem_cons_of_mem draft hother)]

/-- Events that take the identities given to them are numbered one after another. -/
theorem ids_number {drafts : List Draft} (h : ∀ draft ∈ drafts, ∀ id, (draft id).id = id)
    (moment place : Nat) :
    (number moment place drafts).map (·.id) =
      (List.range' place drafts.length).map (.made moment ·) := by
  induction drafts generalizing place with
  | nil => rfl
  | cons draft rest ih =>
    rw [number, List.map_cons, h draft List.mem_cons_self,
      ih fun other hother => h other (List.mem_cons_of_mem draft hother), List.length_cons,
      List.range'_succ, List.map_cons]

/-- Whoever was given an identity had none before, -/
theorem exists_of_mem_number {moment place : Nat} {drafts : List Draft} {event : Event}
    (h : event ∈ number moment place drafts) :
    ∃ draft ∈ drafts, ∃ given, draft (.made moment given) = event := by
  induction drafts generalizing place with
  | nil => cases h
  | cons draft rest ih =>
    rcases List.mem_cons.mp h with rfl | hlater
    · exact ⟨draft, List.mem_cons_self, place, rfl⟩
    · obtain ⟨other, hother, hgiven⟩ := ih hlater
      exact ⟨other, List.mem_cons_of_mem draft hother, hgiven⟩

/-- and everyone is given one. -/
theorem exists_mem_number (moment place : Nat) {drafts : List Draft} {draft : Draft}
    (h : draft ∈ drafts) : ∃ given, draft (.made moment given) ∈ number moment place drafts := by
  induction drafts generalizing place with
  | nil => cases h
  | cons first rest ih =>
    rcases List.mem_cons.mp h with rfl | hlater
    · exact ⟨place, List.mem_cons_self⟩
    · obtain ⟨given, hmem⟩ := ih (place + 1) hlater
      exact ⟨given, List.mem_cons_of_mem _ hmem⟩

end Event

end StoryDirector
