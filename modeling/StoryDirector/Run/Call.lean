import StoryDirector.Run.Engine
/-!
# StoryDirector.Run.Call

One call of a worker. **The cache comes first, and the worker is called only on a miss**; whatever
the worker does, the call ends with a response that names the worker and the time it took. A call
whose task is out of time or whose run is cancelled is given up and leaves nothing behind
(`Call.abandon`).
-/

namespace StoryDirector

/-- How far a call has come. -/
inductive CallStage where
  /-- It has not begun. -/
  | fresh
  /-- Someone else is at work on the same question. -/
  | queued (worker : Worker) (inquiry : Inquiry)
  /-- The worker is at work since an instant. -/
  | working (inquiry : Inquiry) (began : Instant) (reply : Reply)
  /-- It has its response. -/
  | answered (response : Response)

/-- A call of a worker. -/
structure Call where
  /-- The worker. -/
  worker : WorkerKind
  /-- What the worker is told. -/
  briefing : Briefing
  /-- How far the call has come. -/
  stage : CallStage := .fresh

namespace Call

/-- The response, once there is one. -/
def response? (call : Call) : Option Response :=
  match call.stage with
  | .answered response => some response
  | .fresh | .queued _ _ | .working _ _ _ => none

/-- The worker's reply is taken when it is due. -/
def attend (call : Call) (inquiry : Inquiry) (began : Instant) (reply : Reply) (engine : Engine) :
    Engine × Call :=
  if began + reply.delay ≤ engine.now then
    let took : Duration := engine.now - began
    let response := reply.outcome.response call.worker took
    ({ engine with
        store := (inquiry.supply response engine.now engine.store).1
        timings := engine.timings.record call.worker took.seconds },
     { call with stage := .answered response })
  else (engine, { call with stage := .working inquiry began reply })

/-- The worker is called. -/
def start (call : Call) (worker : Worker) (inquiry : Inquiry) (engine : Engine) : Engine × Call :=
  let reply := worker.reply (engine.heardBy call.worker) call.briefing
  let heard := { engine with hearings := engine.hearings ++ [⟨call.worker, call.briefing⟩] }
  call.attend inquiry engine.now reply heard

/-- The call goes on as far as it gets: to a response from the cache, to the gate, or to the
worker. -/
def pursue (call : Call) (worker : Worker) (inquiry : Inquiry) (engine : Engine) : Engine × Call :=
  let (store, inquiry) := inquiry.approach engine.now engine.store
  let asked := { engine with store }
  match inquiry.stage with
  | .answered response => (asked, { call with stage := .answered response })
  | .computing _ => call.start worker inquiry asked
  | .fresh | .queued _ | .abandoned => (asked, { call with stage := .queued worker inquiry })

/-- The call begins. -/
def begin (call : Call) (setup : RunSetup) (engine : Engine) : Engine × Call :=
  let told := engine.notify setup
    (Progress.workerCalled call.briefing.view.session call.worker call.briefing.task)
  match setup.registry.get? call.worker with
  | none =>
    let failure := Response.failure call.worker (.notRegistered call.worker)
    (told, { call with stage := .answered failure })
  | some worker =>
    call.pursue worker ⟨CacheKey.of call.worker call.briefing, told.store.cache.ttl, .fresh⟩ told

/-- The call does what it can at the present instant. -/
def look (call : Call) (setup : RunSetup) (engine : Engine) : Engine × Call :=
  match call.stage with
  | .fresh => call.begin setup engine
  | .queued worker inquiry => call.pursue worker inquiry engine
  | .working inquiry began reply => call.attend inquiry began reply engine
  | .answered _ => (engine, call)

/-- The call is given up. -/
def abandon (call : Call) (engine : Engine) : Engine :=
  match call.stage with
  | .queued _ inquiry | .working inquiry _ _ =>
    { engine with store := (inquiry.abandon engine.store).1 }
  | .fresh | .answered _ => engine

/-- How many steps are left at most. -/
def left (call : Call) : Nat :=
  match call.stage with
  | .fresh => 3
  | .queued _ _ => 2
  | .working _ _ _ => 1
  | .answered _ => 0

/-- The instant at which the reply is due, while the worker is at work. -/
def alarm (call : Call) : Option Instant :=
  match call.stage with
  | .working _ began reply => some (began + reply.delay)
  | .fresh | .queued _ _ | .answered _ => none

/-- Several calls are looked at in order. -/
def lookAll (setup : RunSetup) : List Call → Engine → Engine × List Call
  | [], engine => (engine, [])
  | call :: rest, engine =>
    let (engine, call) := call.look setup engine
    let (engine, rest) := lookAll setup rest engine
    (engine, call :: rest)

/-- Several calls are given up in order. -/
def abandonAll (calls : List Call) (engine : Engine) : Engine :=
  calls.foldl (fun engine call => call.abandon engine) engine

/-- The responses of all calls, once all have one. -/
def responses? (calls : List Call) : Option (List Response) :=
  calls.mapM response?

@[simp] theorem lookAll_nil (setup : RunSetup) (engine : Engine) :
    lookAll setup [] engine = (engine, []) := rfl

end Call

end StoryDirector
