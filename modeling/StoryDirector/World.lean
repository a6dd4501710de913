import StoryDirector.World.Npc
import StoryDirector.Json
/-!
# StoryDirector.World

The state of the game world for one session. **Chaos is a number from 0 (calm) to 1 (unravelling)
that every change keeps in that range**: it is clamped, and what is not finite changes nothing
(`World.setChaos`). Entering a place is the only way to come to it, so whoever moves has visited.
-/

namespace StoryDirector

/-- The seasons of the year. -/
inductive Season where
  /-- The first season. -/
  | spring
  /-- The second season. -/
  | summer
  /-- The third season. -/
  | autumn
  /-- The last season. -/
  | winter
  deriving DecidableEq, Repr

namespace Season

/-- Every season, in order. -/
def all : List Season := [spring, summer, autumn, winter]

/-- The name of a season. -/
def name : Season → String
  | spring => "Spring"
  | summer => "Summer"
  | autumn => "Autumn"
  | winter => "Winter"

/-- The season with a given name. -/
def ofName? (s : String) : Option Season :=
  all.find? fun season => season.name = s

end Season

/-- The kinds of weather. -/
inductive Weather where
  /-- No clouds. -/
  | clear
  /-- Clouds. -/
  | cloudy
  /-- Rain. -/
  | rainy
  /-- A storm. -/
  | stormy
  /-- Snow. -/
  | snowy
  /-- Fog. -/
  | foggy
  deriving DecidableEq, Repr

namespace Weather

/-- Every kind of weather, in the order of their definition. -/
def all : List Weather := [clear, cloudy, rainy, stormy, snowy, foggy]

/-- The name of a weather. -/
def name : Weather → String
  | clear => "Clear"
  | cloudy => "Cloudy"
  | rainy => "Rainy"
  | stormy => "Stormy"
  | snowy => "Snowy"
  | foggy => "Foggy"

/-- The weather with a given name. -/
def ofName? (s : String) : Option Weather :=
  all.find? fun weather => weather.name = s

end Weather

/-- The time in the world. -/
structure WorldTime where
  /-- The day. -/
  day : Nat := 0
  /-- The hour of the day. -/
  hour : Nat := 0
  /-- The minute of the hour. -/
  minute : Nat := 0
  /-- The season of the year. -/
  season : Season := .spring
  deriving DecidableEq

/-- The value of a flag. -/
inductive Flag where
  /-- A truth value. -/
  | bool (b : Bool)
  /-- A whole number of 64 signed bits. -/
  | int (n : Int)
  /-- Any other number. -/
  | float (x : Float)
  /-- A text. -/
  | text (s : String)

/-- The flag that a value makes. Null, lists and objects make none. -/
def Flag.ofJson? : Json → Option Flag
  | .bool b => some (.bool b)
  | .int n => match (Json.int n).whole? with
    | some n => some (.int n)
    | none => some (.float (doubleOfInt n))
  | .float x => some (.float x)
  | .text s => some (.text s)
  | .null | .array _ | .object _ => none

/-- The state of the game world. -/
structure World where
  /-- The time. -/
  time : WorldTime := {}
  /-- The weather. -/
  weather : Weather := .clear
  /-- How unstable the world is. -/
  chaos : Float32 := 0
  /-- Where the player is. -/
  location : String := ""
  /-- Where the player has been, in the order of the first visit. -/
  visited : List String := []
  /-- Who is in the scene. -/
  npcs : Roster := []
  /-- The flags. -/
  flags : Dict Flag := []

namespace World

/-- Whether it is night: before six and from eight in the evening. -/
def isNight (world : World) : Bool :=
  decide (world.time.hour < 6) || decide (20 ≤ world.time.hour)

/-- A number brought into the range from 0 to 1. -/
def clampUnit (x : Float32) : Float32 :=
  if x < 0 then 0 else if x > 1 then 1 else x

/-- The world with a chaos level set. -/
def setChaos (world : World) (level : Float32) : World :=
  if level.isFinite then { world with chaos := clampUnit level } else world

/-- The world with its chaos level moved. -/
def shiftChaos (world : World) (delta : Float32) : World :=
  world.setChaos (world.chaos + delta)

/-- The world after the player came to a place. -/
def enter (world : World) (place : String) : World :=
  { world with
    location := place
    visited := if place ∈ world.visited then world.visited else world.visited ++ [place] }

/-- Whether the player has been to a place. -/
def hasVisited (world : World) (place : String) : Bool :=
  decide (place ∈ world.visited)

/-- The world with a character who appears. -/
def spawn (world : World) (npc : Npc) : World :=
  { world with npcs := world.npcs.spawn npc }

/-- The world with a flag set. -/
def setFlag (world : World) (name : String) (flag : Flag) : World :=
  { world with flags := Dict.put world.flags name flag }

theorem mem_visited_enter (world : World) (place : String) :
    place ∈ (world.enter place).visited := by
  unfold enter
  dsimp only
  split
  · assumption
  · simp

theorem mem_visited_enter_of_mem {world : World} {other : String} (h : other ∈ world.visited)
    (place : String) : other ∈ (world.enter place).visited := by
  unfold enter
  dsimp only
  split
  · exact h
  · exact List.mem_append_left _ h

@[simp] theorem npcs_setChaos (world : World) (level : Float32) :
    (world.setChaos level).npcs = world.npcs := by
  unfold setChaos
  split <;> rfl

end World

end StoryDirector
