import StoryDirector.Proofs.Run.Telling
import Mathlib.Logic.Relation
/-!
# StoryDirector.Proofs.Run.Calling

What a look at a call is made of. **A call moves in few kinds of steps** (`Call.Step`): it is made
known, it is refused because there is no such worker, the cache answers it, it stands in line at the
gate, its worker goes to work, or its worker's reply is taken. A look is some of these in a row
(`Call.steps_look`).

So what every step keeps of the calls of a task, and one more call does not break, is kept by every
look (`Call.Kept.upheld`), and so whenever the task is worked at (`Execution.act_induction`).
-/

namespace StoryDirector

namespace Call

variable {setup : RunSetup} {call : Call} {engine : Engine}

/-- The worker that a call is for and the question that it has for the cache. -/
inductive Asks (setup : RunSetup) (engine : Engine) (call : Call) : Worker → Inquiry → Prop where
  /-- The call is yet to be made. -/
  | first {worker : Worker} (hfresh : call.stage = .fresh)
      (hworker : setup.registry.get? call.worker = some worker) :
      Asks setup engine call worker
        ⟨CacheKey.of call.worker call.briefing, engine.store.cache.ttl, .fresh⟩
  /-- The call has been in line. -/
  | again {worker : Worker} {inquiry : Inquiry} (hqueued : call.stage = .queued worker inquiry) :
      Asks setup engine call worker inquiry

/-- One step of a call. -/
inductive Step (setup : RunSetup) : Engine × Call → Engine × Call → Prop where
  /-- It is made known. -/
  | told (engine : Engine) (call : Call) (notice : Notice) :
      Step setup (engine, call) (engine.notify setup notice, call)
  /-- There is no such worker. -/
  | refused {engine : Engine} {call : Call} (response : Response) (hfresh : call.stage = .fresh)
      (hnone : setup.registry.get? call.worker = none) :
      Step setup (engine, call) (engine, { call with stage := .answered response })
  /-- The cache has the response. -/
  | found {engine : Engine} {call : Call} {worker : Worker} {inquiry asked : Inquiry}
      {store : Store} {response : Response} (hasks : call.Asks setup engine worker inquiry)
      (happroach : inquiry.approach engine.now engine.store = (store, asked))
      (hanswered : asked.stage = .answered response) :
      Step setup (engine, call)
        ({ engine with store }, { call with stage := .answered response })
  /-- It stands in line. -/
  | queues {engine : Engine} {call : Call} {worker : Worker} {inquiry asked : Inquiry}
      {store : Store} (hasks : call.Asks setup engine worker inquiry)
      (happroach : inquiry.approach engine.now engine.store = (store, asked))
      (hopen : ∀ response, asked.stage ≠ .answered response)
      (hheld : ∀ pass, asked.stage ≠ .computing pass) :
      Step setup (engine, call)
        ({ engine with store }, { call with stage := .queued worker asked })
  /-- Its worker hears it and goes to work. -/
  | starts {engine : Engine} {call : Call} {worker : Worker} {inquiry asked : Inquiry}
      {store : Store} {pass : Pass} (hasks : call.Asks setup engine worker inquiry)
      (happroach : inquiry.approach engine.now engine.store = (store, asked))
      (hcomputing : asked.stage = .computing pass) :
      Step setup (engine, call)
        ({ engine with
            store
            hearings := engine.hearings ++ [call.hearing] },
         { call with
            stage := .working asked engine.now
              (worker.reply (engine.heardBy call.worker) call.briefing) })
  /-- The reply is due and is taken. -/
  | ends {engine : Engine} {call : Call} {inquiry : Inquiry} {began : Instant} {reply : Reply}
      (response : Response) (hworking : call.stage = .working inquiry began reply)
      (hdue : began + reply.delay ≤ engine.now) :
      Step setup (engine, call)
        ({ engine with
            store := (inquiry.supply response engine.now engine.store).1
            timings :=
              engine.timings.record call.worker (Duration.seconds (engine.now - began)) },
         { call with stage := .answered response })

theorem steps_attend {inquiry : Inquiry} {began : Instant} {reply : Reply}
    (h : call.stage = .working inquiry began reply) (engine : Engine) :
    Relation.ReflTransGen (Step setup) (engine, call)
      (call.attend inquiry began reply engine) := by
  unfold attend
  split
  case isTrue hdue => exact Relation.ReflTransGen.single (.ends _ h hdue)
  case isFalse =>
      have hsame : { call with stage := .working inquiry began reply } = call := by rw [← h]
      rw [hsame]

theorem steps_pursue {worker : Worker} {inquiry : Inquiry}
    (h : call.Asks setup engine worker inquiry) :
    Relation.ReflTransGen (Step setup) (engine, call) (call.pursue worker inquiry engine) := by
  unfold pursue
  cases happroach : inquiry.approach engine.now engine.store with
  | mk store asked =>
      dsimp only
      cases hstage : asked.stage with
      | answered response => exact Relation.ReflTransGen.single (.found h happroach hstage)
      | computing pass =>
          exact Relation.ReflTransGen.head (.starts h happroach hstage) (steps_attend rfl _)
      | fresh | queued pass | abandoned =>
          have hopen : ∀ response, asked.stage ≠ .answered response := by simp [hstage]
          have hheld : ∀ pass, asked.stage ≠ .computing pass := by simp [hstage]
          exact Relation.ReflTransGen.single (.queues h happroach hopen hheld)

/-- A look at a call is some steps. -/
theorem steps_look (setup : RunSetup) (call : Call) (engine : Engine) :
    Relation.ReflTransGen (Step setup) (engine, call) (call.look setup engine) := by
  unfold look
  cases hstage : call.stage with
  | fresh =>
      dsimp only
      unfold begin
      have htold := @Step.told setup engine call
        (Progress.workerCalled call.briefing.view.session call.worker call.briefing.task)
      refine Relation.ReflTransGen.head htold ?_
      cases hworker : setup.registry.get? call.worker with
      | none => exact Relation.ReflTransGen.single (.refused _ hstage hworker)
      | some worker => exact steps_pursue (.first hstage hworker)
  | queued worker inquiry => exact steps_pursue (.again hstage)
  | working inquiry began reply => exact steps_attend hstage engine
  | answered response => exact Relation.ReflTransGen.refl

/-! ### Calls side by side -/

/-- What steps of one call among others keep. -/
structure Kept (setup : RunSetup) (P : Engine → List Call → Prop) : Prop where
  /-- A step of one of the calls keeps it, -/
  step : ∀ {engine next : Engine} {call stepped : Call} {before after : List Call},
    Step setup (engine, call) (next, stepped) → P engine (before ++ call :: after) →
      P next (before ++ stepped :: after)
  /-- and one more call, where all others have their responses. -/
  more : ∀ {engine : Engine} {calls : List Call} {call : Call} {same : List Response},
    P engine calls → responses? calls = some same → call.stage = .fresh → P engine (calls ++ [call])

variable {P : Engine → List Call → Prop}

theorem look_induction (hP : Kept setup P) {before after : List Call}
    (h : P engine (before ++ call :: after)) :
    P (call.look setup engine).1 (before ++ (call.look setup engine).2 :: after) := by
  have hsteps : ∀ done : Engine × Call, Relation.ReflTransGen (Step setup) (engine, call) done →
      P done.1 (before ++ done.2 :: after) := by
    intro done hdone
    induction hdone with
    | refl => exact h
    | tail _ hstep ih => exact hP.step hstep ih
  exact hsteps _ (steps_look setup call engine)

/-- What looks at one call among others keep. -/
structure Upheld (setup : RunSetup) (P : Engine → List Call → Prop) : Prop where
  /-- A look at one of the calls keeps it, -/
  look : ∀ {engine : Engine} {call : Call} {before after : List Call},
    P engine (before ++ call :: after) →
      P (call.look setup engine).1 (before ++ (call.look setup engine).2 :: after)
  /-- and one more call, where all others have their responses. -/
  more : ∀ {engine : Engine} {calls : List Call} {call : Call} {same : List Response},
    P engine calls → responses? calls = some same → call.stage = .fresh → P engine (calls ++ [call])

theorem Kept.upheld (hP : Kept setup P) : Upheld setup P :=
  ⟨look_induction hP, hP.more⟩

/-- What a look at one call among others keeps, looks at all of them keep. -/
theorem lookAll_induction
    (hP : ∀ {engine : Engine} {call : Call} {before after : List Call},
      P engine (before ++ call :: after) →
        P (call.look setup engine).1 (before ++ (call.look setup engine).2 :: after))
    {before calls : List Call} (h : P engine (before ++ calls)) :
    P (lookAll setup calls engine).1 (before ++ (lookAll setup calls engine).2) := by
  induction calls generalizing before engine with
  | nil => exact h
  | cons call rest ih =>
      have hlooked : P (call.look setup engine).1
          ((before ++ [(call.look setup engine).2]) ++ rest) := by
        simpa using hP h
      simpa [lookAll] using ih hlooked

end Call

namespace Execution

variable {setup : RunSetup} {P : Engine → List Call → Prop} {engine : Engine}

theorem callNext_induction (hP : Call.Upheld setup P) (briefing : Briefing) {calls : List Call}
    (waiting : List WorkerKind) (h : P engine calls) :
    P (callNext setup briefing calls waiting engine).1
      (callNext setup briefing calls waiting engine).2.1 := by
  induction waiting generalizing calls engine with
  | nil => exact h
  | cons worker rest ih =>
      unfold callNext
      cases hresponses : Call.responses? calls with
      | none => exact h
      | some same =>
          let next : Call :=
            { worker, briefing := { briefing with prior := briefing.prior ++ same } }
          have hmore : P engine (calls ++ [next]) := hP.more h hresponses rfl
          exact ih (hP.look hmore)

/-- What looks keep of the calls of a task is kept when the task is worked at. -/
theorem act_induction (hP : Call.Upheld setup P) {execution : Execution}
    (h : P engine execution.calls) :
    P (execution.act setup engine).1 (execution.act setup engine).2.calls :=
  callNext_induction hP execution.briefing execution.waiting
    (@Call.lookAll_induction setup engine P hP.look [] execution.calls h)

end Execution

end StoryDirector
