import StoryDirector.Director.Visit
/-!
# StoryDirector.Director.Timeline

Requests to a director on the clock. **Each request comes at its instant and is answered when it can
be; those that are under way at one instant are looked at in the order of the list.** A caller who
cancels does so after the request was looked at, so what completes at that instant completes.
-/

namespace StoryDirector

/-- What can be asked of a director. -/
inductive Request where
  /-- To start a session at a turn. -/
  | openSession (session : Uuid) (turn : Nat)
  /-- To end a session. -/
  | endSession (session : Uuid)
  /-- Whether there is a session. -/
  | askSession (session : Uuid)
  /-- For a copy of a session, when no one works on it. -/
  | readSession (session : Uuid)
  /-- To answer an action; the caller may cancel after some time. -/
  | act (visit : Visit) (cancelAfter : Option Duration)
  /-- For the state of the cache. -/
  | readCache
  /-- For the call durations. -/
  | readTimings
  /-- For nothing, for some time. -/
  | pause (span : Duration)
  /-- To stop every run. -/
  | shutDown

/-- What a director answers. -/
inductive Finding where
  /-- A session was started. -/
  | opened (result : Except DirectorError Unit)
  /-- Whether a session was ended. -/
  | ended (existed : Bool)
  /-- Whether there is a session, and how many there are. -/
  | known (present : Bool) (count : Nat)
  /-- A copy of a session. -/
  | session (result : Except DirectorError Session)
  /-- The answer to an action. -/
  | acted (result : Except DirectorError Answer)
  /-- The cache. -/
  | cache (cache : Cache)
  /-- The call durations. -/
  | timings (stats : List WorkerStat)
  /-- Time has passed. -/
  | paused
  /-- Whether every run is to stop. -/
  | stopped (all : Bool)

/-- How far a request has come. -/
inductive ItemStage where
  /-- It has not come yet. -/
  | ahead
  /-- An action is being answered; `cancelled` says whether its caller stopped it. -/
  | acting (visit : Visit) (cancelAt : Option Instant) (cancelled : Bool)
  /-- Someone waits for a room in order to read the session. -/
  | reading (room ticket : Nat)
  /-- Time passes until an instant. -/
  | pausing (wake : Instant)
  /-- It was answered at an instant. -/
  | done (finding : Finding) (answered : Instant)

/-- A request with the instant at which it comes. -/
structure Item where
  /-- When it comes. -/
  startAt : Instant
  /-- What is asked. -/
  request : Request
  /-- How far it has come. -/
  stage : ItemStage := .ahead

namespace Item

/-- The request is answered. -/
def finish (item : Item) (finding : Finding) (director : Director) : Director × Item :=
  (director, { item with stage := .done finding director.engine.now })

/-- An action is answered as far as possible; then the caller cancels if it is time. -/
def act (item : Item) (setup : DirectorSetup) (visit : Visit) (cancelAt : Option Instant)
    (cancelled : Bool) (director : Director) : Director × Item :=
  let (director, visit) := visit.look setup cancelled director
  match visit.result? with
  | some result => item.finish (.acted result) director
  | none =>
    let due := match cancelAt with
      | some instant => decide (instant ≤ director.engine.now)
      | none => false
    (director, { item with stage := .acting visit cancelAt (cancelled || due) })

/-- Someone who waits for a room reads the session if it owns the lock. -/
def read (item : Item) (room ticket : Nat) (director : Director) : Director × Item :=
  match director.owns room ticket, director.sessionIn? room with
  | true, some session => item.finish (.session (.ok session)) (director.leave room ticket)
  | _, _ => (director, { item with stage := .reading room ticket })

/-- Time passes. -/
def pause (item : Item) (wake : Instant) (director : Director) : Director × Item :=
  if wake ≤ director.engine.now then item.finish .paused director
  else (director, { item with stage := .pausing wake })

/-- The request comes. -/
def begin (item : Item) (setup : DirectorSetup) (director : Director) : Director × Item :=
  match item.request with
  | .openSession session turn =>
    match director.openSession setup session turn with
    | .ok opened => item.finish (.opened (.ok ())) opened
    | .error error => item.finish (.opened (.error error)) director
  | .endSession session =>
    item.finish (.ended (director.hasSession session)) (director.endSession session)
  | .askSession session =>
    item.finish (.known (director.hasSession session) director.sessionCount) director
  | .readSession session =>
    match director.room? session with
    | none => item.finish (.session (.error (.unknownSession session))) director
    | some room =>
      let (director, ticket) := director.askFor room
      item.read room ticket director
  | .act visit cancelAfter =>
    item.act setup visit (cancelAfter.map (director.engine.now + ·)) (cancelAfter = some 0) director
  | .readCache => item.finish (.cache director.engine.store.cache) director
  | .readTimings => item.finish (.timings director.engine.timings.stats) director
  | .pause span => item.pause (director.engine.now + span) director
  | .shutDown =>
    let stopped := director.stop
    item.finish (.stopped stopped.shutDown) stopped

/-- The request is served as far as possible at the present instant. -/
def look (item : Item) (setup : DirectorSetup) (director : Director) : Director × Item :=
  match item.stage with
  | .ahead =>
    if item.startAt ≤ director.engine.now then item.begin setup director else (director, item)
  | .acting visit cancelAt cancelled => item.act setup visit cancelAt cancelled director
  | .reading room ticket => item.read room ticket director
  | .pausing wake => item.pause wake director
  | .done _ _ => (director, item)

/-- How many steps are left at most. -/
def left (item : Item) : Nat :=
  match item.stage with
  | .ahead => Visit.planAllowance + 5
  | .acting visit _ cancelled => visit.left + if cancelled then 0 else 1
  | .reading _ _ => 1
  | .pausing _ => 1
  | .done _ _ => 0

/-- The next instant at which the request can be served further. -/
def alarm (item : Item) (setup : DirectorSetup) : Option Instant :=
  match item.stage with
  | .ahead => some item.startAt
  | .acting visit cancelAt cancelled =>
    Clockwork.earlier (visit.alarm setup) (if cancelled then none else cancelAt)
  | .pausing wake => some wake
  | .reading _ _ | .done _ _ => none

end Item

/-- A director with requests. -/
structure Timeline where
  /-- The director. -/
  director : Director
  /-- The requests, in the order in which they are looked at. -/
  items : List Item

namespace Timeline

/-- Some requests are looked at in order. -/
def lookItems (setup : DirectorSetup) : List Item → Director → Director × List Item
  | [], director => (director, [])
  | item :: rest, director =>
    let (director, item) := item.look setup director
    let (director, rest) := lookItems setup rest director
    (director, item :: rest)

/-- All requests are looked at in order. -/
def look (setup : DirectorSetup) (timeline : Timeline) : Timeline :=
  let (director, items) := lookItems setup timeline.items timeline.director
  ⟨director, items⟩

/-- A director with requests, driven until no request can be served further. -/
def clockwork (setup : DirectorSetup) : Clockwork Timeline where
  look := look setup
  left timeline := Clockwork.total (timeline.items.map Item.left)
  alarm timeline := Clockwork.earliest (timeline.items.map (·.alarm setup))
  wind instant timeline :=
    { timeline with
      director := { timeline.director with
        engine := { timeline.director.engine with now := instant } } }

/-- Serves some requests, each of which comes so much later than now. -/
def serve (setup : DirectorSetup) (director : Director) (requests : List (Duration × Request)) :
    Timeline :=
  (clockwork setup).play
    ⟨director, requests.map fun (later, request) => ⟨director.engine.now + later, request, .ahead⟩⟩

end Timeline

end StoryDirector
