import StoryDirector.Record
import StoryDirector.World
/-!
# StoryDirector.Record.World

The written form of a world. **Characters are written under identities, visited places are a list in
which repetitions do not count, and a flag is written with the name of its sort.** That a character
is written under its own identity is not asked for.
-/

namespace StoryDirector

/-- A flag, written with the name of its sort. -/
def Flag.record : Flag → Json
  | .bool b => .object [("Bool", .bool b)]
  | .int n => .object [("Int", .int n)]
  | .float x => .object [("Float", Json.ofFloat x)]
  | .text s => .object [("String", .text s)]

/-- The flag that a record holds. -/
def Flag.ofRecord? : Json → Option Flag
  | .object [(sort, value)] =>
    if sort = "Bool" then value.truth?.map .bool
    else if sort = "Int" then (value.integer? 64).map .int
    else if sort = "Float" then value.number?.map .float
    else if sort = "String" then value.text?.map .text
    else none
  | _ => none

/-- A character. -/
def Npc.record (npc : Npc) : Json :=
  Json.ofEntries
    [("id", .orNull .ofUuid npc.id.uuid?),
     ("name", .text npc.name),
     ("disposition", .text npc.disposition.name),
     ("spawned_turn", .ofNat npc.spawnedTurn)]

/-- The character that a record holds. -/
def Npc.ofRecord? (j : Json) : Option Npc := do
  let fields ← Fields.of? .json 4 j
  let id ← fields.required 0 "id" Json.uuid?
  let name ← fields.required 1 "name" Json.text?
  let disposition ← fields.required 2 "disposition" (Json.named? .json Disposition.ofName?)
  let spawnedTurn ← fields.required 3 "spawned_turn" (Json.natural? 32)
  some { id := .known id, name, disposition, spawnedTurn }

/-- The characters that a record holds, each under the identity that it is written under. -/
def Roster.ofRecord? (j : Json) : Option Roster := do
  let entries ← j.dict? Npc.ofRecord?
  entries.foldlM (fun roster (key, npc) =>
    (Uuid.ofText? key).map fun id => Roster.put roster (.known id) npc) []

/-- The time that a record holds. -/
def WorldTime.ofRecord? (j : Json) : Option WorldTime := do
  let fields ← Fields.of? .json 4 j
  let day ← fields.required 0 "day" (Json.natural? 32)
  let hour ← fields.required 1 "hour" (Json.natural? 8)
  let minute ← fields.required 2 "minute" (Json.natural? 8)
  let season ← fields.required 3 "season" (Json.named? .json Season.ofName?)
  some { day, hour, minute, season }

/-- The world that a record holds. -/
def World.ofRecord? (j : Json) : Option World := do
  let fields ← Fields.of? .json 7 j
  let time ← fields.required 0 "time" WorldTime.ofRecord?
  let weather ← fields.required 1 "weather" (Json.named? .json Weather.ofName?)
  let chaos ← fields.required 2 "chaos_level" Json.single?
  let location ← fields.required 3 "current_location" Json.text?
  let visited ← fields.required 4 "visited_locations" (Json.list? Json.text?)
  let npcs ← fields.required 5 "active_npcs" Roster.ofRecord?
  let flags ← fields.required 6 "global_flags" (Json.dict? Flag.ofRecord?)
  some { time, weather, chaos, location, visited := visited.eraseDups, npcs, flags }

end StoryDirector
