import StoryDirector.Run.Solo
import StoryDirector.Proofs.Cache.Alone
import StoryDirector.Proofs.Cache.Kept
/-!
# StoryDirector.Proofs.Run.Prompt

What a run comes to when its workers answer at once and from the question alone
(`Registry.Prompt`). **Then no look leaves anything half done**: a call that is looked at has its
response, a task that is begun is over, and what comes of it is a function of the run and the clock
(`Run.advance`) in which neither the cache nor the worker's past occurs.

What a look does to the engine is summed up by `Engine.Served`:

* the clock stands still;
* the engine stays *fair*: no one is at work, and the cache holds what the workers would answer;
* an engine that forgets all it is told stays so, and then every response of a registered worker was
  heard by that worker.

The last clause is what makes a run on such an engine the plain run.
-/

namespace StoryDirector

/-- What a worker answers to a question. -/
abbrev AnswerRule := WorkerKind → Fingerprint → Outcome

namespace Registry

/-- All workers answer at once and from the question alone. -/
def Prompt (registry : Registry) (answer : AnswerRule) : Prop :=
  ∀ worker ∈ registry.workers, ∀ heard briefing,
    worker.reply heard briefing = { outcome := answer worker.kind briefing.fingerprint }

/-- What a call of a worker comes to. -/
def respond (registry : Registry) (answer : AnswerRule) (worker : WorkerKind)
    (fingerprint : Fingerprint) : Response :=
  if registry.has worker then (answer worker fingerprint).response worker 0
  else Response.failure worker (.notRegistered worker)

end Registry

namespace Cache

variable {cache : Cache} {key : CacheKey} {response : Response} {ttl : Duration} {now : Instant}

@[simp] theorem ttl_lookup (cache : Cache) (key : CacheKey) (now : Instant) :
    (cache.lookup key now).2.ttl = cache.ttl := by
  rw [lookup]
  split
  · rfl
  · split <;> rfl

@[simp] theorem ttl_roomFor (cache : Cache) (key : CacheKey) (now : Instant) :
    (cache.roomFor key now).ttl = cache.ttl := by
  rw [roomFor]
  split
  · rw [makeRoom]
    split
    · rfl
    · split <;> rfl
  · rfl

@[simp] theorem ttl_insert (cache : Cache) (key : CacheKey) (response : Response) (ttl : Duration)
    (now : Instant) : (cache.insert key response ttl now).ttl = cache.ttl := by
  cases h : response.success with
  | true => rw [insert_of_success h, ttl_roomFor]
  | false => rw [insert_of_not_success h]

/-- The cache holds what the workers would answer. -/
def Truthful (answer : AnswerRule) (cache : Cache) : Prop :=
  ∀ entry ∈ cache.entries, entry.response =
    (answer entry.key.worker entry.key.fingerprint).response entry.key.worker 0

variable {answer : AnswerRule}

theorem response_of_truthful (h : cache.Truthful answer)
    (hfound : (cache.lookup key now).1 = some response) :
    response = (answer key.worker key.fingerprint).response key.worker 0 := by
  obtain ⟨entry, hentry, rfl, -, rfl⟩ := mem_of_lookup hfound
  exact h entry hentry

theorem truthful_lookup (h : cache.Truthful answer) (key : CacheKey) (now : Instant) :
    (cache.lookup key now).2.Truthful answer :=
  fun entry hentry => h entry (mem_of_mem_lookup hentry)

theorem truthful_insert (h : cache.Truthful answer)
    (hresponse : response = (answer key.worker key.fingerprint).response key.worker 0)
    (ttl : Duration) (now : Instant) : (cache.insert key response ttl now).Truthful answer := by
  intro entry hentry
  rcases mem_of_mem_insert hentry with hold | ⟨-, rfl⟩
  · exact h entry hold
  · exact hresponse

end Cache

namespace Engine

/-- No one is at work, and the cache holds what the workers would answer. -/
structure Fair (answer : AnswerRule) (engine : Engine) : Prop where
  /-- No one is at work. -/
  idle : engine.store.flights.Idle
  /-- The cache holds what the workers would answer. -/
  truthful : engine.store.cache.Truthful answer

/-- What the cache is told is dead at once. -/
structure Forgetful (engine : Engine) : Prop where
  /-- Responses are kept for no time, -/
  ttl : engine.store.cache.ttl = 0
  /-- and so nothing is alive. -/
  dead : ∀ entry ∈ engine.store.cache.entries, entry.expiresAt ≤ engine.now

/-- What happens to an engine while some calls get their responses at one instant. -/
structure Served (registry : Registry) (answer : AnswerRule) (before : Engine)
    (responses : List Response) (after : Engine) : Prop where
  /-- The clock stands still. -/
  now : after.now = before.now
  /-- The engine is fair. -/
  fair : after.Fair answer
  /-- An engine that forgets stays so, and the responses of registered workers were heard. -/
  heard : before.Forgetful → after.Forgetful ∧ after.hearings.map (·.worker) =
    before.hearings.map (·.worker) ++ (responses.map (·.worker)).filter registry.has

variable {registry : Registry} {answer : AnswerRule} {engine before between after : Engine}
  {first second : List Response}

theorem Served.refl (h : engine.Fair answer) : Served registry answer engine [] engine where
  now := rfl
  fair := h
  heard := fun hforgetful => ⟨hforgetful, (List.append_nil _).symm⟩

theorem Served.trans (h : Served registry answer before first between)
    (hnext : Served registry answer between second after) :
    Served registry answer before (first ++ second) after where
  now := hnext.now.trans h.now
  fair := hnext.fair
  heard := by
    intro hforgetful
    obtain ⟨hbetween, hfirst⟩ := h.heard hforgetful
    obtain ⟨hafter, hsecond⟩ := hnext.heard hbetween
    refine ⟨hafter, ?_⟩
    rw [hsecond, hfirst, List.map_append, List.filter_append, List.append_assoc]

/-- Sending a notice calls no one. -/
theorem Served.notify (h : engine.Fair answer) (setup : RunSetup) (notice : Notice) :
    Served registry answer engine [] (engine.notify setup notice) where
  now := rfl
  fair := ⟨h.idle, h.truthful⟩
  heard := fun hforgetful => ⟨⟨hforgetful.ttl, hforgetful.dead⟩, (List.append_nil _).symm⟩

end Engine

namespace Call

variable {setup : RunSetup} {answer : AnswerRule} {engine : Engine}

/-- The call with a response. -/
def answered (call : Call) (response : Response) : Call :=
  { call with stage := .answered response }

theorem response?_answered (call : Call) (response : Response) :
    (call.answered response).response? = some response := rfl

/-- A worker that answers at once is called, and its answer is kept. -/
theorem start_prompt (call : Call) {worker : Worker} {outcome : Outcome} (inquiry : Inquiry)
    (engine : Engine)
    (hreply : worker.reply (engine.heardBy call.worker) call.briefing = { outcome := outcome }) :
    call.start worker inquiry engine =
      ({ engine with
          store := (inquiry.supply (outcome.response call.worker 0) engine.now engine.store).1
          timings := engine.timings.record call.worker (Duration.seconds 0)
          hearings := engine.hearings ++ [⟨call.worker, call.briefing⟩] },
       call.answered (outcome.response call.worker 0)) := by
  have htook : engine.now - engine.now = 0 := Nat.sub_self _
  have hdue : engine.now + ({ outcome } : Reply).delay ≤ engine.now := Nat.le_refl _
  rw [start, hreply, attend, if_pos hdue]
  simp only [htook, answered]

/-- A call of a registered worker has its response after the first look, from the cache or from the
worker. -/
theorem pursue_prompt (hprompt : setup.registry.Prompt answer) (hfair : engine.Fair answer)
    (call : Call) {worker : Worker} (hworker : setup.registry.get? call.worker = some worker)
    (inquiry : Inquiry) (hkey : inquiry.key = CacheKey.of call.worker call.briefing)
    (hfresh : inquiry.stage = .fresh) (httl : inquiry.ttl = engine.store.cache.ttl) :
    ∃ after,
      call.pursue worker inquiry engine = (after, call.answered
        (setup.registry.respond answer call.worker call.briefing.fingerprint)) ∧
      Engine.Served setup.registry answer engine
        [setup.registry.respond answer call.worker call.briefing.fingerprint] after := by
  have hhas : setup.registry.has call.worker = true := by rw [Registry.has, hworker]; rfl
  have hkind : worker.kind = call.worker := by simpa using List.find?_some hworker
  have hreply := hprompt worker (List.mem_of_find?_eq_some hworker)
  rw [hkind] at hreply
  rw [Registry.respond, if_pos hhas]
  have hlookup := Cache.truthful_lookup hfair.truthful inquiry.key engine.now
  cases hfound : (engine.store.cache.lookup inquiry.key engine.now).1 with
  | some response =>
      have htrue := Cache.response_of_truthful hfair.truthful hfound
      rw [hkey] at htrue
      have hpursue : call.pursue worker inquiry engine =
          ({ engine with
              store.cache := (engine.store.cache.lookup inquiry.key engine.now).2.countHit },
           call.answered response) := by
        rw [answered, pursue, Inquiry.approach_of_hit hfresh hfound]
      rw [hpursue, htrue]
      refine ⟨_, rfl, rfl, ⟨hfair.idle, hlookup⟩, fun hforgetful => ?_⟩
      -- A cache that forgets would have found nothing.
      obtain ⟨entry, hentry, -, hlive, -⟩ := Cache.mem_of_lookup hfound
      exact absurd hlive (Nat.not_lt_of_le (hforgetful.dead entry hentry))
  | none =>
      have hpursue : call.pursue worker inquiry engine =
          call.start worker
            { inquiry with stage := .computing (engine.store.flights.join inquiry.key).2 }
            { engine with
              store := ⟨(engine.store.cache.lookup inquiry.key engine.now).2.countMiss,
                (engine.store.flights.join inquiry.key).1⟩ } := by
        rw [pursue, Inquiry.approach_of_miss hfresh hfair.idle hfound]
      rw [hpursue, start_prompt call _ _ (hreply _ _)]
      refine ⟨_, rfl, rfl, ⟨Flights.idle_leave_join hfair.idle _, ?_⟩,
        fun hforgetful => ⟨⟨?_, ?_⟩, ?_⟩⟩
      · have htrue : (answer call.worker call.briefing.fingerprint).response call.worker 0 =
            (answer inquiry.key.worker inquiry.key.fingerprint).response inquiry.key.worker 0 := by
          rw [hkey]
          rfl
        have hmissed : (engine.store.cache.lookup inquiry.key engine.now).2.countMiss.Truthful
            answer := hlookup
        exact Cache.truthful_insert hmissed htrue _ _
      · show (Cache.insert _ _ _ _ _).ttl = 0
        rw [Cache.ttl_insert]
        exact (Cache.ttl_lookup _ _ _).trans hforgetful.ttl
      · intro entry hentry
        rcases Cache.mem_of_mem_insert hentry with hold | ⟨-, rfl⟩
        · exact hforgetful.dead entry (Cache.mem_of_mem_lookup hold)
        · show engine.now + inquiry.ttl ≤ engine.now
          rw [httl, hforgetful.ttl]
          exact Nat.le_refl _
      · have hheard : ([call.worker].filter setup.registry.has) = [call.worker] :=
          List.filter_cons_of_pos hhas
        show (engine.hearings ++ [(⟨call.worker, call.briefing⟩ : Hearing)]).map (·.worker) =
          engine.hearings.map (·.worker) ++ [call.worker].filter setup.registry.has
        rw [List.map_append, hheard]
        rfl

/-- After one look a call has its response. -/
theorem look_prompt (hprompt : setup.registry.Prompt answer) (hfair : engine.Fair answer)
    (call : Call) (hfresh : call.stage = .fresh) :
    ∃ after,
      call.look setup engine = (after, call.answered
        (setup.registry.respond answer call.worker call.briefing.fingerprint)) ∧
      Engine.Served setup.registry answer engine
        [setup.registry.respond answer call.worker call.briefing.fingerprint] after := by
  have htold : Engine.Served setup.registry answer engine [] (engine.notify setup
      (Progress.workerCalled call.briefing.view.session call.worker call.briefing.task)) :=
    Engine.Served.notify hfair setup _
  have hlook : call.look setup engine = call.begin setup engine := by rw [look, hfresh]
  rw [hlook, begin]
  cases hworker : setup.registry.get? call.worker with
  | none =>
      have hhas : ¬ setup.registry.has call.worker = true := by
        rw [Registry.has, hworker]
        exact Bool.false_ne_true
      rw [Registry.respond, if_neg hhas]
      refine ⟨_, rfl, htold.now, htold.fair, fun hforgetful => ⟨(htold.heard hforgetful).1, ?_⟩⟩
      rw [(htold.heard hforgetful).2, List.map_singleton, Response.worker_failure,
        List.filter_cons_of_neg hhas]
      rfl
  | some worker =>
      obtain ⟨after, hpursue, hserved⟩ := pursue_prompt hprompt htold.fair call hworker
        ⟨CacheKey.of call.worker call.briefing, engine.store.cache.ttl, .fresh⟩ rfl rfl rfl
      exact ⟨after, hpursue, htold.trans hserved⟩

theorem responses?_cons {call : Call} {response : Response} {rest : List Call}
    {responses : List Response} (h : call.response? = some response)
    (hrest : responses? rest = some responses) :
    responses? (call :: rest) = some (response :: responses) := by
  rw [responses?] at hrest ⊢
  rw [List.mapM_cons, h, hrest]
  rfl

theorem responses?_append {calls others : List Call} {first second : List Response}
    (h : responses? calls = some first) (hothers : responses? others = some second) :
    responses? (calls ++ others) = some (first ++ second) := by
  rw [responses?] at h hothers ⊢
  rw [List.mapM_append, h, hothers]
  rfl

/-- After one look at all of them, several calls have their responses. -/
theorem lookAll_prompt (hprompt : setup.registry.Prompt answer) (hfair : engine.Fair answer)
    (calls : List Call) (hfresh : ∀ call ∈ calls, call.stage = .fresh) :
    ∃ after looked,
      lookAll setup calls engine = (after, looked) ∧
      responses? looked = some (calls.map fun call =>
        setup.registry.respond answer call.worker call.briefing.fingerprint) ∧
      Engine.Served setup.registry answer engine (calls.map fun call =>
        setup.registry.respond answer call.worker call.briefing.fingerprint) after := by
  induction calls generalizing engine with
  | nil => exact ⟨engine, [], rfl, rfl, Engine.Served.refl hfair⟩
  | cons call rest ih =>
      obtain ⟨seen, hlook, hserved⟩ :=
        look_prompt hprompt hfair call (hfresh call List.mem_cons_self)
      obtain ⟨after, looked, hrest, hresponses, hafter⟩ :=
        ih hserved.fair fun other hother => hfresh other (List.mem_cons_of_mem _ hother)
      refine ⟨after, _ :: looked, ?_, responses?_cons (response?_answered call _) hresponses,
        hserved.trans hafter⟩
      rw [lookAll, hlook]
      simp only [hrest]

end Call

namespace Execution

variable {setup : RunSetup} {answer : AnswerRule} {engine : Engine}

/-- Workers that are called one after another all answer at one look; what the earlier ones said
makes no difference to the question. -/
theorem callNext_prompt (hprompt : setup.registry.Prompt answer) (hfair : engine.Fair answer)
    (briefing : Briefing) {calls : List Call} {responses : List Response}
    (hcalls : Call.responses? calls = some responses) (waiting : List WorkerKind) :
    ∃ after called,
      callNext setup briefing calls waiting engine = (after, called, []) ∧
      Call.responses? called = some (responses ++ waiting.map fun worker =>
        setup.registry.respond answer worker briefing.fingerprint) ∧
      Engine.Served setup.registry answer engine (waiting.map fun worker =>
        setup.registry.respond answer worker briefing.fingerprint) after := by
  induction waiting generalizing calls responses engine with
  | nil =>
      refine ⟨engine, calls, rfl, ?_, Engine.Served.refl hfair⟩
      rw [List.map_nil, List.append_nil, hcalls]
  | cons worker rest ih =>
      obtain ⟨seen, hlook, hserved⟩ := Call.look_prompt hprompt hfair
        { worker, briefing := { briefing with prior := briefing.prior ++ responses } } rfl
      have hquestion : ({ briefing with prior := briefing.prior ++ responses } :
          Briefing).fingerprint = briefing.fingerprint := rfl
      rw [hquestion] at hlook hserved
      have hnone : Call.responses? [] = some [] := rfl
      obtain ⟨after, called, hrest, hresponses, hafter⟩ := ih hserved.fair
        (Call.responses?_append hcalls (Call.responses?_cons (Call.response?_answered _ _) hnone))
      refine ⟨after, called, ?_, ?_, hserved.trans hafter⟩
      · rw [callNext, hcalls]
        simp only [hlook]
        exact hrest
      · rw [hresponses, List.append_assoc]
        rfl

/-- All that a task's workers answer. -/
def promptResponses (registry : Registry) (answer : AnswerRule) (task : Task)
    (fingerprint : Fingerprint) : List Response :=
  task.workers.map fun worker => registry.respond answer worker fingerprint

/-- What comes of a task at once. -/
def promptResult (registry : Registry) (answer : AnswerRule) (task : Task)
    (fingerprint : Fingerprint) :
    TaskResult where
  task := task
  responses := promptResponses registry answer task fingerprint
  seconds := Duration.seconds 0
  error := verdict task.mode (promptResponses registry answer task fingerprint)

/-- An execution with all its responses is over, in time or not. -/
theorem over_of_responses {execution : Execution} {seen after : Engine} {calls called : List Call}
    {responses : List Response} (hlook : Call.lookAll setup execution.calls engine = (seen, calls))
    (hnext : callNext setup execution.briefing calls execution.waiting seen = (after, called, []))
    (hresponses : Call.responses? called = some responses) (hnow : after.now = execution.began) :
    execution.look setup engine = (after, .over
      { task := execution.task
        responses
        seconds := Duration.seconds 0
        error := verdict execution.task.mode responses }) := by
  have htook : after.now - execution.began = 0 := by rw [hnow, Nat.sub_self]
  have hall : Execution.responses? { execution with calls := called, waiting := [] } =
      some responses := hresponses
  simp only [look, hlook, hnext, hall, htook]

/-- A task whose workers answer at once is over at the first look. -/
theorem look_prompt (hprompt : setup.registry.Prompt answer) (hfair : engine.Fair answer)
    (task : Task) (briefing : Briefing) :
    ∃ after,
      (Execution.begin task briefing engine.now).look setup engine =
        (after, .over (promptResult setup.registry answer task briefing.fingerprint)) ∧
      Engine.Served setup.registry answer engine
        (promptResponses setup.registry answer task briefing.fingerprint) after := by
  rw [Execution.begin]
  split
  · -- All at once: every call is fresh, and no worker is left to be called.
    obtain ⟨after, looked, hlook, hresponses, hserved⟩ := Call.lookAll_prompt hprompt hfair
      (task.workers.map fun worker => { worker, briefing }) (by simp)
    rw [List.map_map] at hresponses hserved
    exact ⟨after, over_of_responses hlook rfl hresponses hserved.now, hserved⟩
  · -- One after another: at the start none has answered.
    have hnone : Call.responses? [] = some [] := rfl
    obtain ⟨after, called, hnext, hresponses, hserved⟩ :=
      callNext_prompt hprompt hfair briefing hnone task.workers
    rw [List.nil_append] at hresponses
    exact ⟨after, over_of_responses rfl hnext hresponses hserved.now, hserved⟩

end Execution

namespace Run

variable {setup : RunSetup} {answer : AnswerRule} {engine : Engine}

/-- What comes of a task that waits, if anything does yet. -/
def attempted (run : Run) (setup : RunSetup) (answer : AnswerRule) (task : Task)
    (since now : Instant) : Option TaskResult :=
  match run.ledger.wait? task.dependsOn setup.limits.dependencyTimeout since now with
  | none => none
  | some (.error error) => some { task, error := some error }
  | some (.ok ()) =>
    if task.workers.isEmpty then some { task, error := some .noWorkers }
    else
      some (Execution.promptResult setup.registry answer task (run.briefing setup task).fingerprint)

/-- A task of which nothing comes yet has time left. -/
theorem lt_of_attempted {run : Run} {task : Task} {since now : Instant}
    (h : run.attempted setup answer task since now = none) :
    now < since + setup.limits.dependencyTimeout := by
  refine Nat.lt_of_not_le fun hover => ?_
  rw [attempted, Ledger.wait?, if_pos hover] at h
  split at h
  case h_1 hwait =>
      split at hwait
      · cases hwait
      · cases hwait
  case h_2 => cases h
  case h_3 =>
      split at h
      · cases h
      · cases h

/-- What becomes of a run whose next task waits. -/
def advance (setup : RunSetup) (answer : AnswerRule) (now : Instant) :
    (todo : List Task) → Task → (since : Instant) → Run → Run
  | todo, task, since, run =>
    match run.attempted setup answer task since now with
    | none => { run with stage := .busy (.waiting task since) todo }
    | some result =>
      match todo with
      | [] => { run.record setup result with stage := .finished }
      | next :: rest => advance setup answer now rest next now (run.record setup result)

/-- What becomes of a run that is looked at. -/
def seen (run : Run) (setup : RunSetup) (answer : AnswerRule) (cancelled : Bool) (now : Instant) :
    Run :=
  match run.stage with
  | .busy (.waiting task since) todo =>
    if cancelled then { run with stage := .cancelled }
    else advance setup answer now todo task since run
  | .busy (.executing _) _ | .finished | .cancelled => run

/-- A task that waits goes on as `attempted` says. -/
theorem lookAttempt_prompt (hprompt : setup.registry.Prompt answer) (hfair : engine.Fair answer)
    (run : Run) (task : Task) (since : Instant) :
    (run.attempted setup answer task since engine.now = none ∧
        run.lookAttempt setup (.waiting task since) engine =
          (engine, .going (.waiting task since))) ∨
      ∃ after result, run.attempted setup answer task since engine.now = some result ∧
        run.lookAttempt setup (.waiting task since) engine = (after, .over result) ∧
        Engine.Served setup.registry answer engine result.responses after := by
  rw [attempted, lookAttempt, lookWaiting]
  cases hwait : run.ledger.wait? task.dependsOn setup.limits.dependencyTimeout since
    engine.now with
  | none => exact Or.inl ⟨rfl, rfl⟩
  | some waited =>
      right
      cases waited with
      | error error => exact ⟨engine, _, rfl, rfl, Engine.Served.refl hfair⟩
      | ok done =>
          have htold : Engine.Served setup.registry answer engine [] (engine.notify setup
              (Progress.taskStarted run.session.id task run.ledger.results.length run.total)) :=
            Engine.Served.notify hfair setup _
          dsimp only
          split
          · exact ⟨_, _, rfl, rfl, htold⟩
          · obtain ⟨after, hlook, hserved⟩ := Execution.look_prompt hprompt htold.fair task
              (run.briefing setup task)
            rw [hlook]
            exact ⟨after, _, rfl, rfl, htold.trans hserved⟩

/-- Closing a task calls no one. -/
theorem close_fair (hfair : engine.Fair answer) (run : Run) (setup : RunSetup)
    (result : TaskResult) :
    ∃ after, run.close setup result engine = (after, run.record setup result) ∧
      Engine.Served setup.registry answer engine [] after := by
  rw [close]
  cases result.error with
  | none => exact ⟨_, rfl, Engine.Served.notify hfair setup _⟩
  | some error =>
      have htold : Engine.Served setup.registry answer engine [] (engine.notify setup
          (Progress.taskFailed run.session.id result.task error)) :=
        Engine.Served.notify hfair setup _
      exact ⟨_, rfl, htold.trans (Engine.Served.notify htold.fair setup _)⟩

/-- The tasks that are over at once are recorded one after another, and their responses are all that
is heard meanwhile. -/
theorem pursue_prompt (hprompt : setup.registry.Prompt answer) (hfair : engine.Fair answer)
    (todo : List Task) (task : Task) (since : Instant) (run : Run) :
    ∃ after responses,
      pursue setup todo (.waiting task since) engine run =
        (after, advance setup answer engine.now todo task since run) ∧
      Engine.Served setup.registry answer engine responses after ∧
      (advance setup answer engine.now todo task since run).ledger.responses =
        run.ledger.responses ++ responses := by
  induction todo generalizing task since run engine with
  | nil =>
      rw [pursue, advance]
      rcases lookAttempt_prompt hprompt hfair run task since with
        ⟨hnone, hlook⟩ | ⟨seen, result, hresult, hlook, hserved⟩
      · rw [hnone, hlook]
        exact ⟨engine, [], rfl, Engine.Served.refl hfair, (List.append_nil _).symm⟩
      · obtain ⟨after, hclose, hafter⟩ := close_fair hserved.fair run setup result
        rw [hresult, hlook]
        dsimp only
        rw [hclose]
        refine ⟨after, _, rfl, hserved.trans hafter, ?_⟩
        rw [List.append_nil]
        exact Ledger.responses_record run.ledger result
  | cons next rest ih =>
      rw [pursue, advance]
      rcases lookAttempt_prompt hprompt hfair run task since with
        ⟨hnone, hlook⟩ | ⟨seen, result, hresult, hlook, hserved⟩
      · rw [hnone, hlook]
        exact ⟨engine, [], rfl, Engine.Served.refl hfair, (List.append_nil _).symm⟩
      · obtain ⟨between, hclose, hbetween⟩ := close_fair hserved.fair run setup result
        have hclosed := hserved.trans hbetween
        obtain ⟨after, responses, hpursue, hafter, hresponses⟩ :=
          ih hclosed.fair next between.now (run.record setup result)
        rw [hresult, hlook]
        dsimp only
        rw [hclose]
        dsimp only
        rw [hpursue, hclosed.now]
        rw [hclosed.now] at hresponses
        refine ⟨after, _, rfl, hclosed.trans hafter, ?_⟩
        rw [hresponses, List.append_nil, ← List.append_assoc]
        exact congrArg (· ++ responses) (Ledger.responses_record run.ledger result)

/-- No task of the run is half done. -/
def Calm (run : Run) : Prop :=
  ∀ execution todo, run.stage ≠ .busy (.executing execution) todo

/-- A look at a run does to it what `seen` says. -/
theorem look_prompt (hprompt : setup.registry.Prompt answer) (hfair : engine.Fair answer)
    {run : Run} (hcalm : run.Calm) (cancelled : Bool) :
    ∃ after responses,
      run.look setup cancelled engine = (after, run.seen setup answer cancelled engine.now) ∧
      Engine.Served setup.registry answer engine responses after ∧
      (run.seen setup answer cancelled engine.now).ledger.responses =
        run.ledger.responses ++ responses := by
  have hstill : ∃ after responses, (engine, run) = (after, run) ∧
      Engine.Served setup.registry answer engine responses after ∧
      run.ledger.responses = run.ledger.responses ++ responses :=
    ⟨engine, [], rfl, Engine.Served.refl hfair, (List.append_nil _).symm⟩
  rw [look, seen]
  cases hstage : run.stage with
  | finished => exact hstill
  | cancelled => exact hstill
  | busy attempt todo =>
      cases attempt with
      | executing execution => exact absurd hstage (hcalm execution todo)
      | waiting task since =>
          cases cancelled with
          | true => exact ⟨engine, [], rfl, Engine.Served.refl hfair, (List.append_nil _).symm⟩
          | false => exact pursue_prompt hprompt hfair todo task since run

/-- After a look, whatever still waits has time left. -/
theorem stage_advance (setup : RunSetup) (answer : AnswerRule) (now : Instant) (todo : List Task)
    (task : Task) (since : Instant) (run : Run) :
    (advance setup answer now todo task since run).stage = .finished ∨
      ∃ next began rest,
        (advance setup answer now todo task since run).stage = .busy (.waiting next began) rest ∧
        now < began + setup.limits.dependencyTimeout := by
  induction todo generalizing task since run with
  | nil =>
      rw [advance]
      cases hresult : run.attempted setup answer task since now with
      | none => exact Or.inr ⟨task, since, [], rfl, lt_of_attempted hresult⟩
      | some result => exact Or.inl rfl
  | cons next rest ih =>
      rw [advance]
      cases hresult : run.attempted setup answer task since now with
      | none => exact Or.inr ⟨task, since, next :: rest, rfl, lt_of_attempted hresult⟩
      | some result => exact ih next now (run.record setup result)

/-- What a look does to the stage of a run: it stays or ends, or a task waits that has time left. -/
theorem stage_seen {run : Run} (hcalm : run.Calm) (setup : RunSetup) (answer : AnswerRule)
    (cancelled : Bool) (now : Instant) :
    (run.seen setup answer cancelled now).isBusy = false ∨
      ∃ task since todo,
        (run.seen setup answer cancelled now).stage = .busy (.waiting task since) todo ∧
        now < since + setup.limits.dependencyTimeout := by
  rw [seen]
  cases hstage : run.stage with
  | finished => exact Or.inl (by rw [isBusy, hstage])
  | cancelled => exact Or.inl (by rw [isBusy, hstage])
  | busy attempt todo =>
      cases attempt with
      | executing execution => exact absurd hstage (hcalm execution todo)
      | waiting task since =>
          cases cancelled with
          | true => exact Or.inl rfl
          | false =>
              rcases stage_advance setup answer now todo task since run with hover | hwaits
              · exact Or.inl (by simp only [Bool.false_eq_true, if_false, isBusy, hover])
              · exact Or.inr hwaits

theorem calm_of_not_busy {run : Run} (h : run.isBusy = false) : run.Calm := by
  intro execution todo hstage
  rw [isBusy, hstage] at h
  cases h

theorem calm_of_waiting {run : Run} {task : Task} {since : Instant} {todo : List Task}
    (h : run.stage = .busy (.waiting task since) todo) : run.Calm := by
  intro execution others hstage
  rw [h] at hstage
  cases hstage

/-- Giving up a run that is not half done with a task changes nothing. -/
theorem abandon_of_calm {run : Run} (h : run.Calm) (engine : Engine) :
    run.abandon engine = engine := by
  rw [abandon]
  split
  case h_1 | h_2 => rfl
  case h_3 attempt todo hstage =>
      cases attempt with
      | executing execution => exact absurd hstage (h execution todo)
      | waiting task since => rfl

theorem calm_seen {run : Run} (hcalm : run.Calm) (setup : RunSetup) (answer : AnswerRule)
    (cancelled : Bool) (now : Instant) : (run.seen setup answer cancelled now).Calm := by
  rcases stage_seen hcalm setup answer cancelled now with hover | ⟨task, since, todo, hwaits, -⟩
  · exact calm_of_not_busy hover
  · exact calm_of_waiting hwaits

theorem calm_begin (tasks : List Task) (action : PlayerAction) (kind : ActionKind)
    (session : Session) (now : Instant) : (begin tasks action kind session now).Calm := by
  cases tasks with
  | nil => exact calm_of_not_busy rfl
  | cons task rest => exact calm_of_waiting rfl

end Run

end StoryDirector
