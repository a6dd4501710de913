import StoryDirector.Proofs.Cascade.Faults
/-!
# StoryDirector.Proofs.Cascade.Writes

What the standard cascade writes into the world. **Of a session an event changes nothing but the
world, and of the world what it writes there one after another, which can be told from the event and
the turn** (`Event.writes`, `Cascade.worldProcessor_eq`). An event that fails has written what
stands in front of its fault. So a whole pass is one list of writes, those of the events that it
processes in their order (`Cascade.Calls.eq_lived`), and what holds of each single write holds of
the pass.

In this way the frame of a pass is six short cases instead of six handlers, each with its ways to
fail: no write touches the clock of the world or the weather, none takes a place or a flag away, and
the only one that adds a place makes it the place where the player is (`Cascade.integrate_touches`).
What a part of the world has to do with which events is read off the writes as well, since each kind
of event has its own (`EventKind.Writes`).
-/

namespace StoryDirector

/-- Something that is written into a world. -/
inductive Write where
  /-- Chaos is set. -/
  | chaos (level : Float32)
  /-- Chaos is moved. -/
  | shift (delta : Float32)
  /-- The player comes to a place. -/
  | place (name : String)
  /-- A flag is set. -/
  | flag (name : String) (flag : Flag)
  /-- A character appears, who is given a new identity. -/
  | appearance (draft : Npc.Draft)
  /-- Whoever stands under the identity of the first of a name leaves, if there is one. -/
  | departure (name : String)

namespace World

/-- The world after something was written. -/
def write (world : World) : Write → World
  | .chaos level => world.setChaos level
  | .shift delta => world.shiftChaos delta
  | .place name => world.enter name
  | .flag name flag => world.setFlag name flag
  | .appearance draft => world.spawn (draft world.npcs.freshId)
  | .departure name =>
    (world.npcs.remove name).elim world fun removed => { world with npcs := removed.2 }

/-- The world after several things were written. -/
def writeAll (world : World) (writes : List Write) : World :=
  writes.foldl write world

/-- The worlds that come about as several things are written, one after each. -/
def course (world : World) : List Write → List World
  | [] => []
  | write :: rest => world.write write :: (world.write write).course rest

/-- The player is nowhere or at a place that was visited. -/
def Located (world : World) : Prop :=
  world.location = "" ∨ world.location ∈ world.visited

variable {world : World} {place name : String}

theorem writeAll_append (world : World) (first second : List Write) :
    world.writeAll (first ++ second) = (world.writeAll first).writeAll second :=
  List.foldl_append

/-- What every write preserves, several preserve. -/
theorem writeAll_induction {P : World → Prop}
    (hwrite : ∀ world write, P world → P (world.write write)) (writes : List Write)
    (h : P world) : P (world.writeAll writes) := by
  induction writes generalizing world with
  | nil => exact h
  | cons write rest ih => exact ih (hwrite world write h)

/-- What each of several writes leaves alone, they leave alone together. -/
theorem writeAll_spares {α : Type} (part : World → α) {writes : List Write}
    (hwrites : ∀ write ∈ writes, ∀ world, part (world.write write) = part world) (world : World) :
    part (world.writeAll writes) = part world := by
  induction writes generalizing world with
  | nil => rfl
  | cons write rest ih =>
      exact (ih (fun other hother => hwrites other (List.mem_cons_of_mem _ hother)) _).trans
        (hwrites write List.mem_cons_self world)

/-- The last world of a course is the one in which all is written. -/
theorem writeAll_eq_getLastD (world : World) (writes : List Write) :
    world.writeAll writes = (world.course writes).getLastD world := by
  induction writes generalizing world with
  | nil => rfl
  | cons write rest ih =>
      rw [course, List.getLastD_cons]
      exact ih (world.write write)

/-! ### What a write leaves alone -/

/-- Setting chaos changes nothing else. -/
theorem setChaos_eq (world : World) (level : Float32) :
    ∃ chaos, world.setChaos level = { world with chaos } := by
  rw [setChaos]
  split
  · exact ⟨_, rfl⟩
  · exact ⟨world.chaos, rfl⟩

/-- A write changes one thing, and a place that it adds is where the player is then. -/
theorem write_cases (world : World) (write : Write) :
    (∃ chaos npcs flags, world.write write = { world with chaos, npcs, flags } ∧
      ∀ name, Dict.has world.flags name = true → Dict.has flags name = true) ∨
    ∃ place, world.write write = world.enter place := by
  cases write with
  | chaos level =>
      obtain ⟨chaos, hset⟩ := world.setChaos_eq level
      exact Or.inl ⟨chaos, world.npcs, world.flags, hset, fun _ h => h⟩
  | shift delta =>
      obtain ⟨chaos, hset⟩ := world.setChaos_eq (world.chaos + delta)
      exact Or.inl ⟨chaos, world.npcs, world.flags, hset, fun _ h => h⟩
  | place name => exact Or.inr ⟨name, rfl⟩
  | flag name flag =>
      exact Or.inl ⟨world.chaos, world.npcs, Dict.put world.flags name flag, rfl,
        fun _ h => Dict.has_put_of_has h _ _⟩
  | appearance draft =>
      let npcs := world.npcs.spawn (draft world.npcs.freshId)
      exact Or.inl ⟨world.chaos, npcs, world.flags, rfl, fun _ h => h⟩
  | departure name =>
      rw [World.write]
      cases world.npcs.remove name with
      | none => exact Or.inl ⟨world.chaos, world.npcs, world.flags, rfl, fun _ h => h⟩
      | some removed => exact Or.inl ⟨world.chaos, removed.2, world.flags, rfl, fun _ h => h⟩

theorem time_write (world : World) (write : Write) : (world.write write).time = world.time := by
  rcases world.write_cases write with ⟨chaos, npcs, flags, hwrite, -⟩ | ⟨place, hwrite⟩
  · rw [hwrite]
  · rw [hwrite]
    rfl

theorem weather_write (world : World) (write : Write) :
    (world.write write).weather = world.weather := by
  rcases world.write_cases write with ⟨chaos, npcs, flags, hwrite, -⟩ | ⟨place, hwrite⟩
  · rw [hwrite]
  · rw [hwrite]
    rfl

theorem mem_visited_write (h : place ∈ world.visited) (write : Write) :
    place ∈ (world.write write).visited := by
  rcases world.write_cases write with ⟨chaos, npcs, flags, hwrite, -⟩ | ⟨other, hwrite⟩ <;>
    rw [hwrite]
  · exact h
  · exact mem_visited_enter_of_mem h other

theorem has_flags_write (h : Dict.has world.flags name = true) (write : Write) :
    Dict.has (world.write write).flags name = true := by
  rcases world.write_cases write with ⟨chaos, npcs, flags, hwrite, hkeeps⟩ | ⟨place, hwrite⟩ <;>
    rw [hwrite]
  · exact hkeeps name h
  · exact h

theorem located_write (h : world.Located) (write : Write) : (world.write write).Located := by
  rcases world.write_cases write with ⟨chaos, npcs, flags, hwrite, -⟩ | ⟨place, hwrite⟩ <;>
    rw [hwrite]
  · exact h
  · exact Or.inr (mem_visited_enter world place)

/-- A place that is new is where the player is. -/
theorem mem_visited_or_location_write (write : Write)
    (h : place ∈ (world.write write).visited) :
    place ∈ world.visited ∨ (world.write write).location = place := by
  rcases world.write_cases write with ⟨chaos, npcs, flags, hwrite, -⟩ | ⟨other, hwrite⟩ <;>
    rw [hwrite] at h ⊢
  · exact Or.inl h
  · simp only [enter] at h
    split at h
    · exact Or.inl h
    · rcases List.mem_append.mp h with hold | hnew
      · exact Or.inl hold
      · exact Or.inr (List.mem_singleton.mp hnew).symm

/-- So is a place that was new at any time. -/
theorem exists_location_of_mem_visited (writes : List Write)
    (h : place ∈ (world.writeAll writes).visited) :
    place ∈ world.visited ∨ ∃ after ∈ world.course writes, after.location = place := by
  induction writes generalizing world with
  | nil => exact Or.inl h
  | cons write rest ih =>
      rcases ih h with hfirst | ⟨after, hafter, hplace⟩
      · rcases mem_visited_or_location_write write hfirst with hold | hnew
        · exact Or.inl hold
        · exact Or.inr ⟨world.write write, List.mem_cons_self, hnew⟩
      · exact Or.inr ⟨after, List.mem_cons_of_mem _ hafter, hplace⟩

end World

/-! ### What an event writes -/

/-- What an entry of a state change writes. -/
def Cascade.changeWrite? (change : String × Json) : Option Write :=
  if change.1 = "chaos_level" then
    change.2.number?.map fun level => .chaos (narrow level)
  else if change.1 = "location" ∨ change.1 = "current_location" then
    change.2.text?.map .place
  else
    (Flag.ofJson? change.2).map (.flag change.1)

/-- What an event writes on a turn, until it comes to its fault if it has one. -/
def Event.writes (event : Event) (turn : Nat) : List Write :=
  match event.kind with
  | .stateChange =>
    ((event.payload.fields?.getD []).takeWhile fun change =>
      (Cascade.entryFault? change).isNone).filterMap Cascade.changeWrite?
  | .npcSpawn =>
    let disposition := ((event.detail? "disposition").bind Disposition.ofLabel?).getD .neutral
    ((event.detail? "name").map fun name =>
      .appearance fun id => { id, name, disposition, spawnedTurn := turn }).toList
  | .npcDeath => ((event.detail? "name").map .departure).toList
  | .worldEvent =>
    ((event.detail? "location").map .place).toList ++
      (((event.payload.field? "chaos_delta").bind Json.number?).map fun delta =>
        .shift (narrow delta)).toList
  | .anomaly => [.flag "last_anomaly_turn" (.int turn)]
  | .questUpdate =>
    ((event.detail? "quest").bind fun quest =>
      (event.detail? "status").map fun status => .flag ("quest:" ++ quest) (.text status)).toList

/-- An event of the kind can write this. -/
inductive EventKind.Writes : EventKind → Write → Prop
  /-- A state change sets chaos, -/
  | level (level : Float32) : Writes .stateChange (.chaos level)
  /-- moves the player -/
  | place (place : String) : Writes .stateChange (.place place)
  /-- and sets flags. -/
  | flag (name : String) (flag : Flag) : Writes .stateChange (.flag name flag)
  /-- Someone appears. -/
  | appearance (draft : Npc.Draft) : Writes .npcSpawn (.appearance draft)
  /-- Someone dies. -/
  | departure (name : String) : Writes .npcDeath (.departure name)
  /-- News move the player -/
  | arrival (place : String) : Writes .worldEvent (.place place)
  /-- and chaos. -/
  | shift (delta : Float32) : Writes .worldEvent (.shift delta)
  /-- An anomaly leaves its mark, -/
  | mark (name : String) (flag : Flag) : Writes .anomaly (.flag name flag)
  /-- and so do news of a quest. -/
  | quest (name : String) (flag : Flag) : Writes .questUpdate (.flag name flag)

theorem Event.kind_writes {event : Event} {turn : Nat} {write : Write}
    (h : write ∈ event.writes turn) : event.kind.Writes write := by
  rw [Event.writes] at h
  cases hkind : event.kind with
  | stateChange =>
      simp only [hkind] at h
      obtain ⟨change, -, hchange⟩ := List.mem_filterMap.mp h
      rw [Cascade.changeWrite?] at hchange
      split at hchange
      · obtain ⟨level, -, rfl⟩ := Option.map_eq_some_iff.mp hchange
        exact .level _
      · split at hchange
        · obtain ⟨place, -, rfl⟩ := Option.map_eq_some_iff.mp hchange
          exact .place _
        · obtain ⟨flag, -, rfl⟩ := Option.map_eq_some_iff.mp hchange
          exact .flag _ _
  | npcSpawn =>
      simp only [hkind] at h
      obtain ⟨name, -, rfl⟩ := Option.map_eq_some_iff.mp (Option.mem_toList.mp h)
      exact .appearance _
  | npcDeath =>
      simp only [hkind] at h
      obtain ⟨name, -, rfl⟩ := Option.map_eq_some_iff.mp (Option.mem_toList.mp h)
      exact .departure _
  | worldEvent =>
      simp only [hkind] at h
      rcases List.mem_append.mp h with hplace | hshift
      · obtain ⟨place, -, rfl⟩ := Option.map_eq_some_iff.mp (Option.mem_toList.mp hplace)
        exact .arrival _
      · obtain ⟨delta, -, rfl⟩ := Option.map_eq_some_iff.mp (Option.mem_toList.mp hshift)
        exact .shift _
  | anomaly =>
      simp only [hkind] at h
      rw [List.mem_singleton.mp h]
      exact .mark _ _
  | questUpdate =>
      simp only [hkind] at h
      obtain ⟨quest, -, hstatus⟩ := Option.bind_eq_some_iff.mp (Option.mem_toList.mp h)
      obtain ⟨status, -, rfl⟩ := Option.map_eq_some_iff.mp hstatus
      exact .quest _ _

namespace Cascade

variable {threshold : Float32}

theorem changedBy_eq (world : World) (change : String × Json) :
    world.changedBy change = world.writeAll (changeWrite? change).toList := by
  rw [World.changedBy, changeWrite?]
  split
  · cases change.2.number? <;> rfl
  · split
    · cases change.2.text? <;> rfl
    · cases Flag.ofJson? change.2 <;> rfl

/-- A state change writes its entries up to the first that makes no sense. -/
theorem applyChanges_eq (changes : List (String × Json)) (session : Session)
    (found : List Event) :
    (applyChanges threshold session found changes).1 = withWorld session fun world =>
      world.writeAll ((changes.takeWhile fun change => (entryFault? change).isNone).filterMap
        changeWrite?) := by
  induction changes generalizing session found with
  | nil => rfl
  | cons change rest ih =>
      cases hchange : entryFault? change with
      | some fault =>
          rw [applyChanges_cons_of_fault hchange, List.takeWhile_cons_of_neg (by simp [hchange])]
          rfl
      | none =>
          obtain ⟨more, hmore⟩ := exists_applyChanges_cons hchange session found rest
          rw [hmore, ih, List.takeWhile_cons_of_pos (by simp [hchange])]
          simp only [withWorld, changedBy_eq, ← World.writeAll_append]
          cases hwrite : changeWrite? change <;> simp [hwrite]

/-- **What an event does to a session.** -/
theorem worldProcessor_eq (threshold : Float32) (event : Event) (session : Session) :
    (worldProcessor threshold event session).1 =
      withWorld session (·.writeAll (event.writes session.turn)) := by
  rw [worldProcessor, Event.writes]
  cases event.kind with
  | stateChange =>
      simp only [stateChange]
      cases event.payload.fields? with
      | none => rfl
      | some changes => exact applyChanges_eq changes session []
  | npcSpawn =>
      simp only [npcSpawn]
      cases event.detail? "name" <;> rfl
  | npcDeath =>
      simp only [npcDeath]
      cases event.detail? "name" with
      | none => rfl
      | some name =>
          simp only [Option.map_some, Option.toList_some, World.writeAll, List.foldl_cons,
            List.foldl_nil, World.write]
          cases hfound : session.world.npcs.remove name <;> simp [hfound, withWorld]
  | worldEvent =>
      simp only [worldEvent]
      cases event.payload.field? "chaos_delta" with
      | none => cases event.detail? "location" <;> rfl
      | some value =>
          cases hnumber : value.number? with
          | none => cases event.detail? "location" <;> simp [hnumber] <;> rfl
          | some delta => cases event.detail? "location" <;> simp [hnumber] <;> rfl
  | anomaly => rfl
  | questUpdate =>
      simp only [questUpdate]
      cases event.detail? "quest" with
      | none => rfl
      | some quest => cases event.detail? "status" <;> rfl

/-! ### What a pass writes -/

/-- What some calls write on a turn, in their order. -/
def writesOf (turn : Nat) (handlings : List Handling) : List Write :=
  handlings.flatMap (·.event.writes turn)

/-- An event writes what it has to write, and its follow-ups are remembered. -/
theorem after_handle (threshold : Float32) (event : Event) (session : Session) :
    (handle (worldProcessor threshold) event session).after =
      session.lived (session.world.writeAll (event.writes session.turn))
        (handle (worldProcessor threshold) event session).followups := by
  obtain ⟨changed, hprocess, hafter⟩ := exists_call (worldProcessor threshold) event session
  have hchanged : changed = withWorld session (·.writeAll (event.writes session.turn)) := by
    rw [← worldProcessor_eq threshold, hprocess]
  rw [hafter, hchanged]
  rfl

/-- Some calls write what their events write, and their follow-ups are remembered. -/
theorem Calls.eq_lived {first last : Session} {handlings : List Handling}
    (h : Calls (worldProcessor threshold) first handlings last) :
    last = first.lived (first.world.writeAll (writesOf first.turn handlings))
      (handlings.flatMap (·.followups)) := by
  induction handlings generalizing first with
  | nil =>
      obtain rfl := h
      rfl
  | cons handling rest ih =>
      obtain ⟨hcall, hrest⟩ := h.eq_handle
      have hwrites : writesOf first.turn (handling :: rest) =
          handling.event.writes first.turn ++ writesOf first.turn rest := List.flatMap_cons
      have hafter := after_handle threshold handling.event first
      rw [← hcall] at hafter
      rw [ih hrest, hafter, Session.lived_lived, hwrites, World.writeAll_append,
        List.flatMap_cons]
      rfl

/-- Each of them writes into the world that it finds. -/
theorem Calls.world_after {first last : Session} {handlings : List Handling}
    (h : Calls (worldProcessor threshold) first handlings last) {handling : Handling}
    (hmem : handling ∈ handlings) :
    handling.after.world =
      handling.before.world.writeAll (handling.event.writes first.turn) := by
  induction handlings generalizing first with
  | nil => cases hmem
  | cons call rest ih =>
      obtain ⟨hcall, hrest⟩ := h.eq_handle
      have hafter := after_handle threshold call.event first
      rw [← hcall] at hafter
      rcases List.mem_cons.mp hmem with rfl | hlater
      · have hbefore : handling.before = first := congrArg Handling.before hcall
        rw [hafter, hbefore]
        rfl
      · have hturn : call.after.turn = first.turn := by rw [hafter]; rfl
        rw [← hturn]
        exact ih hrest hlater

end Cascade

/-- What becomes of a session as its world takes a course. -/
structure Session.Touched (before : Session) (course : List World) (after : Session) : Prop where
  /-- Only the world changes, and the events that are remembered: the identity stays, -/
  id : after.id = before.id
  /-- the turn, -/
  turn : after.turn = before.turn
  /-- the remembered actions with their limit, -/
  actions : after.actions = before.actions
  /-- and how many events are remembered. -/
  limit : after.events.limit = before.events.limit
  /-- The world ends where its course ends. -/
  ends : after.world = course.getLastD before.world
  /-- Time in it stands still, the season included, -/
  time : after.world.time = before.world.time
  /-- and the weather does not change. -/
  weather : after.world.weather = before.world.weather
  /-- No visited place is forgotten, -/
  visited : ∀ place ∈ before.world.visited, place ∈ after.world.visited
  /-- and the player came to each that is new. -/
  entered : ∀ place ∈ after.world.visited, place ∉ before.world.visited →
    ∃ world ∈ course, world.location = place
  /-- No flag is taken away. -/
  flags : ∀ name, Dict.has before.world.flags name = true →
    Dict.has after.world.flags name = true
  /-- The player does not get to a place that is not visited. -/
  located : before.world.Located → after.world.Located

namespace Cascade

/-- **How far a pass of the standard cascade goes.** Whatever the responses are, whatever fails and
however many rounds there are, the world takes the course of what the processed events write, one
event after another, and nothing is touched beyond that. -/
theorem integrate_touches (threshold : Float32) (depth : Nat) (responses : List Response)
    (session : Session) :
    let calls := (integration (worldProcessor threshold) depth responses session).handlings
    (∀ call ∈ calls, call.after.world =
      call.before.world.writeAll (call.event.writes session.turn)) ∧
    session.Touched (session.world.course (writesOf session.turn calls))
      (integrate (worldProcessor threshold) depth responses session).1 := by
  intro calls
  let remembered := session.recordEvents
    (derived responses session.turn session.recorded ++ reported responses session.turn)
  let writes := writesOf session.turn calls
  have hcalls : Calls (worldProcessor threshold) remembered calls
      (integrate (worldProcessor threshold) depth responses session).1 := by
    rw [integrate_eq]
    exact calls_trace _ _ _ _
  have hlived := hcalls.eq_lived
  have hworld : (integrate (worldProcessor threshold) depth responses session).1.world =
      session.world.writeAll writes := by
    rw [hlived]
    rfl
  refine ⟨fun call hcall => hcalls.world_after hcall, ?_⟩
  constructor
  case id => rw [hlived]; rfl
  case turn => rw [hlived]; rfl
  case actions => rw [hlived]; rfl
  case limit =>
    rw [hlived]
    exact (Recent.limit_recordAll _ _).trans (Recent.limit_recordAll _ _)
  case ends => rw [hworld, World.writeAll_eq_getLastD]
  case time =>
    rw [hworld]
    exact World.writeAll_spares World.time (fun write _ world => world.time_write write) _
  case weather =>
    rw [hworld]
    exact World.writeAll_spares World.weather (fun write _ world => world.weather_write write) _
  case visited =>
    intro place hplace
    rw [hworld]
    exact World.writeAll_induction (P := fun world => place ∈ world.visited)
      (fun _ write h => World.mem_visited_write h write) writes hplace
  case entered =>
    intro place hplace hnew
    rw [hworld] at hplace
    exact (World.exists_location_of_mem_visited writes hplace).resolve_left hnew
  case flags =>
    intro name hname
    rw [hworld]
    exact World.writeAll_induction (P := fun world => Dict.has world.flags name = true)
      (fun _ write h => World.has_flags_write h write) writes hname
  case located =>
    intro hlocated
    rw [hworld]
    exact World.writeAll_induction (P := World.Located)
      (fun _ write h => World.located_write h write) writes hlocated

end Cascade

end StoryDirector
