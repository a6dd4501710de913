import StoryDirector.Director
/-!
# StoryDirector.Director.Visit

Answering one action: a `Visit` is one such request at some point of its way. **The visitor waits
for the session's room, applies the caller's snapshot, plans, runs the plan, merges the results and
remembers the action, all while it owns the lock.** Two things can stop it: its caller, who ends it
wherever it is, and the shutting down of the director, which the run notices at the next boundary of
a task. Either way the session is put back as the finished tasks left it, the room is left, and
whoever watches is told.
-/

namespace StoryDirector

/-- How far a visit has come. -/
inductive VisitStage where
  /-- It has not begun. -/
  | fresh
  /-- It waits for a room. -/
  | queued (room ticket : Nat)
  /-- It runs a plan. -/
  | running (room ticket : Nat) (plan : Plan) (run : Run)
  /-- It is over. -/
  | over (result : Except DirectorError Answer)

/-- The answering of one action. -/
structure Visit where
  /-- The session. -/
  session : Uuid
  /-- The action. -/
  action : PlayerAction
  /-- The caller's turn and world. -/
  snapshot : Snapshot
  /-- The draw that planning may need. -/
  draw : Float32 := 0
  /-- How far the visit has come. -/
  stage : VisitStage := .fresh

namespace Visit

/-- The visit ends without an answer because it was told to, and that is made known. -/
def stopped (visit : Visit) (setup : DirectorSetup) (director : Director) : Director × Visit :=
  (director.notify setup (Progress.cancelled visit.session),
   { visit with stage := .over (.error .cancelled) })

/-- The answer to a finished run. -/
def answerOf (setup : DirectorSetup) (director : Director) (plan : Plan) (run : Run) : Answer :=
  Merge.answer setup.merge run.ledger.results run.report.events
    { kind := plan.kind
      turn := run.session.turn
      hitRate := director.engine.store.cache.hitRate }

/-- The run goes on; if it is over, so is the visit. -/
def proceed (visit : Visit) (setup : DirectorSetup) (room ticket : Nat) (plan : Plan) (run : Run)
    (director : Director) : Director × Visit :=
  let (engine, run) := run.look setup.run director.shutDown director.engine
  let director := { director with engine }
  match run.stage with
  | .busy _ _ => (director, { visit with stage := .running room ticket plan run })
  | .cancelled =>
    visit.stopped setup ((director.putBack room run.session).leave room ticket)
  | .finished =>
    let answer := answerOf setup director plan run
    let told := director.notify setup
      (Progress.completed visit.session run.ledger.results.length)
    ((told.putBack room (run.session.recordAction visit.action)).leave room ticket,
     { visit with stage := .over (.ok answer) })

/-- The visitor goes into the room if it owns the lock, plans, and starts to run the plan. -/
def enter (visit : Visit) (setup : DirectorSetup) (room ticket : Nat) (director : Director) :
    Director × Visit :=
  match director.owns room ticket, director.sessionIn? room with
  | true, some found =>
    let session := found.apply visit.snapshot
    let plan := setup.planner.plan visit.action session visit.draw
    let told := director.notify setup (Progress.planned visit.session plan.tasks plan.estimate)
    let run := Run.begin plan.tasks visit.action plan.kind session told.engine.now
    visit.proceed setup room ticket plan run told
  | _, _ => (director, { visit with stage := .queued room ticket })

/-- The visitor looks for the room and asks for its lock. -/
def arrive (visit : Visit) (setup : DirectorSetup) (cancelled : Bool) (director : Director) :
    Director × Visit :=
  match director.room? visit.session with
  | none => (director, { visit with stage := .over (.error (.unknownSession visit.session)) })
  | some room =>
    if cancelled then visit.stopped setup director
    else
      let (director, ticket) := director.askFor room
      visit.enter setup room ticket director

/-- The visit does what it can at the present instant; if its caller stops it, it stops first. -/
def look (visit : Visit) (setup : DirectorSetup) (cancelled : Bool) (director : Director) :
    Director × Visit :=
  match visit.stage with
  | .over _ => (director, visit)
  | .fresh => visit.arrive setup cancelled director
  | .queued room ticket =>
    if cancelled then visit.stopped setup (director.leave room ticket)
    else visit.enter setup room ticket director
  | .running room ticket plan run =>
    if cancelled then
      let freed := { director with engine := run.abandon director.engine }
      visit.stopped setup ((freed.putBack room run.session).leave room ticket)
    else visit.proceed setup room ticket plan run director

/-- The result, once there is one. -/
def result? (visit : Visit) : Option (Except DirectorError Answer) :=
  match visit.stage with
  | .over result => some result
  | .fresh | .queued _ _ | .running _ _ _ _ => none

/-- More steps than the run of any plan takes. -/
def planAllowance : Nat := 64

/-- How many steps are left at most. -/
def left (visit : Visit) : Nat :=
  match visit.stage with
  | .fresh => planAllowance + 3
  | .queued _ _ => planAllowance + 2
  | .running _ _ _ run => run.left + 1
  | .over _ => 0

/-- The next instant at which the visit can go on by itself. -/
def alarm (visit : Visit) (setup : DirectorSetup) : Option Instant :=
  match visit.stage with
  | .running _ _ _ run => run.alarm setup.run
  | .fresh | .queued _ _ | .over _ => none

end Visit

end StoryDirector
