import StoryDirector.Merge
import StoryDirector.Plan
import StoryDirector.Run
/-!
# StoryDirector.Director

The keeper of all sessions. **Each session lives in a room behind a lock, and whoever works on it or
reads it has to own the lock**; all sessions share one engine. A room is all that a handle to a
session gives access to. A session's identity leads to its room until the session is ended; those
who found the way to the room before keep it.
-/

namespace StoryDirector

/-- What a director is set up with. -/
structure DirectorSetup where
  /-- How plans are made. -/
  planner : Planner := {}
  /-- How answers are made. -/
  merge : MergeSettings := {}
  /-- How much sessions remember. -/
  memory : SessionSettings := {}
  /-- How plans are run. -/
  run : RunSetup

/-- The setup that some settings ask for. -/
def DirectorSetup.of (settings : Settings) (registry : Registry)
    (cascade : CascadeRules := CascadeRules.standard settings.cascade)
    (refusal : Notice → Option SinkError := fun _ => none) : DirectorSetup where
  planner := { settings := settings.planner }
  merge := settings.merge
  memory := settings.session
  run := { registry, limits := settings.run, cascade, refusal }

/-- Why a director refused. -/
inductive DirectorError where
  /-- There is no such session. -/
  | unknownSession (session : Uuid)
  /-- There is such a session already. -/
  | sessionExists (session : Uuid)
  /-- The run was cancelled. -/
  | cancelled
  deriving DecidableEq

/-- The wording of a refusal. -/
def DirectorError.message : DirectorError → String
  | .unknownSession session => "session " ++ session.text ++ " is not initialized"
  | .sessionExists session => "session " ++ session.text ++ " is already initialized"
  | .cancelled => "coordination run was cancelled"

/-- A session behind its lock. -/
structure Room where
  /-- The lock. -/
  lock : Lock := {}
  /-- The session as the last one who owned the lock left it. -/
  session : Session

/-- The keeper of all sessions. -/
structure Director where
  /-- What all runs share. -/
  engine : Engine
  /-- The rooms, in the order in which they were opened. -/
  rooms : List Room := []
  /-- The place of the room to which each identity leads. -/
  current : List (Uuid × Nat) := []
  /-- The number of the next one who asks for a lock. -/
  nextTicket : Nat := 0
  /-- Whether every run is to stop. -/
  shutDown : Bool := false

namespace Director

/-- A director without sessions. -/
def create (settings : Settings) : Director where
  engine := Engine.create settings.cache settings.run

/-- The place of the room to which an identity leads. -/
def room? (director : Director) (session : Uuid) : Option Nat :=
  (director.current.find? (·.1 = session)).map (·.2)

/-- Whether there is a session. -/
def hasSession (director : Director) (session : Uuid) : Bool :=
  (director.room? session).isSome

/-- How many sessions there are. -/
def sessionCount (director : Director) : Nat :=
  director.current.length

/-- Starts a session that was not known before. -/
def openSession (director : Director) (setup : DirectorSetup) (session : Uuid) (turn : Nat) :
    Except DirectorError Director :=
  if director.hasSession session then .error (.sessionExists session)
  else
    let fresh : Session := { id := session, turn }
    let limited := fresh.withLimits setup.memory.recentActions setup.memory.recentEvents
    .ok { director with
      current := director.current ++ [(session, director.rooms.length)]
      rooms := director.rooms ++ [{ session := limited }] }

/-- Ends a session. Whoever is in its room or waits for it is not disturbed. -/
def endSession (director : Director) (session : Uuid) : Director :=
  { director with current := director.current.filter (·.1 ≠ session) }

/-- Every run is to stop, and every later one. -/
def stop (director : Director) : Director :=
  { director with shutDown := true }

/-- The session in a room. -/
def sessionIn? (director : Director) (room : Nat) : Option Session :=
  director.rooms[room]?.map (·.session)

/-- The director with one room changed. -/
def atRoom (director : Director) (room : Nat) (change : Room → Room) : Director :=
  { director with rooms := director.rooms.modify room change }

/-- Someone asks for the lock of a room and is given a number. -/
def askFor (director : Director) (room : Nat) : Director × Nat :=
  let ticket := director.nextTicket
  ({ director.atRoom room fun r => { r with lock := r.lock.ask ticket } with
      nextTicket := ticket + 1 },
   ticket)

/-- Whether someone owns the lock of a room. -/
def owns (director : Director) (room ticket : Nat) : Bool :=
  director.rooms[room]?.any (·.lock.ownedBy ticket)

/-- Someone leaves a room or the line in front of it. -/
def leave (director : Director) (room ticket : Nat) : Director :=
  director.atRoom room fun r => { r with lock := r.lock.leave ticket }

/-- The owner of the lock puts the session back as it left it. -/
def putBack (director : Director) (room : Nat) (session : Session) : Director :=
  director.atRoom room fun r => { r with session }

/-- Sends a notice. -/
def notify (director : Director) (setup : DirectorSetup) (notice : Notice) : Director :=
  { director with engine := director.engine.notify setup.run notice }

@[simp] theorem room?_endSession (director : Director) (session : Uuid) :
    (director.endSession session).room? session = none := by
  simp [room?, endSession]

end Director

end StoryDirector
