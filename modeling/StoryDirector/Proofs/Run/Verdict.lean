import StoryDirector.Proofs.Cache.Kept
import StoryDirector.Proofs.Run.Ending
import StoryDirector.Proofs.Run.Stepwise
import StoryDirector.Proofs.Run.Transparency
/-!
# StoryDirector.Proofs.Run.Verdict

**Whatever the workers do and whatever earlier runs left in the cache, a run that no one cancels has
one result for each of its tasks, and the result says what became of the task**
(`Run.every_task_judged`). A task waited in vain, or it needs no worker, or it was too late, or each
of its workers has answered, and then their responses decide (`TaskResult.Judged`). No failure
leaves its task.

The cache is where another run could interfere: a kept response must be by the worker that is asked.
The invariant says so for everything on the way from the cache to a result:

* each entry of the cache is by the worker of its key (`Cache.Signed`);
* an inquiry and a call end with a response by the worker that was asked (`Call.Signed`);
* the calls that were made and the workers that are yet to be called are together the workers of the
  task, in their order (`Execution.Signed`).
-/

namespace StoryDirector

/-! ### Whose response it is -/

namespace Cache

variable {cache : Cache} {key : CacheKey} {response : Response} {now : Instant}

/-- Every response that is kept is by the worker of its key. -/
def Signed (cache : Cache) : Prop :=
  ∀ entry ∈ cache.entries, entry.response.worker = entry.key.worker

/-- A response under a key is by the worker of the key. -/
def ByWorker (key : CacheKey) (response : Response) : Prop :=
  response.worker = key.worker

end Cache

namespace Inquiry

variable {inquiry : Inquiry} {pass : Pass} {response : Response} {now : Instant} {store : Store}

/-- A response that the inquiry has is by the worker that was asked. -/
def Signed (inquiry : Inquiry) : Prop :=
  ∀ response, inquiry.stage = .answered response → response.worker = inquiry.key.worker

theorem signed_fresh (key : CacheKey) (ttl : Duration) : Signed ⟨key, ttl, .fresh⟩ :=
  holds_fresh (P := Cache.ByWorker) key ttl

theorem signed_approach (h : store.cache.Signed) (hinquiry : inquiry.Signed) (now : Instant) :
    (inquiry.approach now store).1.cache.Signed ∧ (inquiry.approach now store).2.Signed :=
  holds_approach (P := Cache.ByWorker) h hinquiry now

theorem signed_supply (h : store.cache.Signed) (hresponse : response.worker = inquiry.key.worker) :
    (inquiry.supply response now store).1.cache.Signed :=
  holds_supply (P := Cache.ByWorker) h hresponse

end Inquiry

namespace Call

variable (setup : RunSetup) {call : Call} {engine : Engine}

/-- What the call asks and has is signed by the worker that is called. -/
def Signed (call : Call) : Prop :=
  match call.stage with
  | .fresh => True
  | .queued _ inquiry => inquiry.key.worker = call.worker ∧ inquiry.Signed
  | .working inquiry _ _ => inquiry.key.worker = call.worker
  | .answered response => response.worker = call.worker

/-- What comes of a look at a call: the cache and the call are signed, by the same worker. -/
structure Held (call : Call) (seen : Engine × Call) : Prop where
  /-- The cache is signed. -/
  cache : seen.1.store.cache.Signed
  /-- The call is one of the same worker -/
  worker : seen.2.worker = call.worker
  /-- and is signed. -/
  signed : seen.2.Signed

theorem held_attend (h : engine.store.cache.Signed) {inquiry : Inquiry}
    (hworker : inquiry.key.worker = call.worker) (began : Instant) (reply : Reply) :
    call.Held (call.attend inquiry began reply engine) := by
  rw [attend]
  split
  · exact ⟨Inquiry.signed_supply h hworker.symm, rfl, rfl⟩
  · exact ⟨h, rfl, hworker⟩

theorem held_pursue (h : engine.store.cache.Signed) {inquiry : Inquiry}
    (hworker : inquiry.key.worker = call.worker) (hinquiry : inquiry.Signed) (worker : Worker) :
    call.Held (call.pursue worker inquiry engine) := by
  obtain ⟨hcache, hasked⟩ := Inquiry.signed_approach h hinquiry engine.now
  have hkey : (inquiry.approach engine.now engine.store).2.key.worker = call.worker := by
    rw [Inquiry.key_approach, hworker]
  rw [pursue]
  generalize inquiry.approach engine.now engine.store = approached at hcache hasked hkey ⊢
  obtain ⟨store, asked⟩ := approached
  dsimp only at hcache hasked hkey ⊢
  split
  case h_1 response hanswered => exact ⟨hcache, rfl, (hasked response hanswered).trans hkey⟩
  case h_2 => exact held_attend hcache hkey _ _
  case h_3 | h_4 | h_5 => exact ⟨hcache, rfl, hkey, hasked⟩

/-- A look keeps everything signed. -/
theorem held_look (h : engine.store.cache.Signed) (hcall : call.Signed) :
    call.Held (call.look setup engine) := by
  rw [Signed] at hcall
  rw [look]
  cases hstage : call.stage with
  | fresh =>
      have htold : (engine.notify setup (Progress.workerCalled call.briefing.view.session
          call.worker call.briefing.task)).store.cache.Signed := h
      dsimp only
      rw [begin]
      cases setup.registry.get? call.worker with
      | none => exact ⟨htold, rfl, rfl⟩
      | some worker =>
          have hkey : (CacheKey.of call.worker call.briefing).worker = call.worker := rfl
          exact held_pursue htold hkey (Inquiry.signed_fresh _ _) worker
  | queued worker inquiry =>
      rw [hstage] at hcall
      exact held_pursue h hcall.1 hcall.2 worker
  | working inquiry began reply =>
      rw [hstage] at hcall
      exact held_attend h hcall began reply
  | answered response =>
      refine ⟨h, rfl, ?_⟩
      rw [Signed, hstage]
      rw [hstage] at hcall
      exact hcall

/-- The same of several calls. -/
theorem signed_lookAll {calls : List Call} (h : engine.store.cache.Signed)
    (hcalls : ∀ call ∈ calls, call.Signed) :
    (lookAll setup calls engine).1.store.cache.Signed ∧
      (∀ call ∈ (lookAll setup calls engine).2, call.Signed) ∧
      (lookAll setup calls engine).2.map (·.worker) = calls.map (·.worker) := by
  induction calls generalizing engine with
  | nil => exact ⟨h, hcalls, rfl⟩
  | cons call rest ih =>
      have hheld := held_look setup h (hcalls call List.mem_cons_self)
      obtain ⟨hcache, hrest, hworkers⟩ :=
        ih hheld.cache fun other hother => hcalls other (List.mem_cons_of_mem _ hother)
      refine ⟨hcache, fun other hother => ?_, ?_⟩
      · rcases List.mem_cons.mp hother with rfl | hother
        · exact hheld.signed
        · exact hrest other hother
      · rw [lookAll, List.map_cons, List.map_cons, hheld.worker, hworkers]

theorem cache_abandonAll (calls : List Call) (engine : Engine) :
    (abandonAll calls engine).store.cache = engine.store.cache := by
  induction calls generalizing engine with
  | nil => rfl
  | cons call rest ih =>
      have hcall : (call.abandon engine).store.cache = engine.store.cache := by
        rw [abandon]
        split
        · exact Inquiry.cache_abandon _ _
        · exact Inquiry.cache_abandon _ _
        case h_3 | h_4 => rfl
      exact (ih (call.abandon engine)).trans hcall

/-- Once all calls have a response, each response is by the worker of its call. -/
theorem workers_of_responses? {calls : List Call} {responses : List Response}
    (hcalls : ∀ call ∈ calls, call.Signed) (h : responses? calls = some responses) :
    responses.map (·.worker) = calls.map (·.worker) := by
  induction calls generalizing responses with
  | nil =>
      obtain rfl := Option.some.inj h
      rfl
  | cons call rest ih =>
      rw [responses?, List.mapM_cons] at h
      obtain ⟨response, hresponse, h⟩ := Option.bind_eq_some_iff.mp h
      obtain ⟨others, hothers, h⟩ := Option.bind_eq_some_iff.mp h
      obtain rfl := Option.some.inj h
      have hworker : response.worker = call.worker := by
        have hcall := hcalls call List.mem_cons_self
        rw [response?] at hresponse
        rw [Signed] at hcall
        split at hresponse
        case h_1 hstage =>
            rw [hstage] at hcall
            exact Option.some.inj hresponse ▸ hcall
        case h_2 | h_3 | h_4 => cases hresponse
      rw [List.map_cons, List.map_cons, hworker,
        ih (fun other hother => hcalls other (List.mem_cons_of_mem _ hother)) hothers]

end Call

/-! ### What a result says -/

/-- The identities that a task depends on and that none of the tasks before it bears, in their
order. -/
def Task.unmet (task : Task) (before : List Task) : List String :=
  task.dependsOn.filter fun id => !before.any (·.id = id)

theorem Ledger.missing_eq_unmet (ledger : Ledger) (task : Task) :
    ledger.missing task.dependsOn = task.unmet (ledger.results.map (·.task)) := by
  simp only [missing, has, Task.unmet, List.any_map, Function.comp_def]

namespace TaskResult

/-- All workers of the task have answered, and their responses decide. -/
structure Decided (result : TaskResult) : Prop where
  /-- There is one response for each worker, in the order of the workers. -/
  workers : result.responses.map (·.worker) = result.task.workers
  /-- In consensus more than half of the responses have to count, and if they do not, the result
  says how many do. -/
  consensus : result.task.mode = .consensus →
    (result.succeeded = true ↔
      result.responses.length < 2 * result.responses.countP (·.success)) ∧
    (result.succeeded = false → result.error =
      some (.noConsensus (result.responses.countP (·.success)) result.responses.length))
  /-- In every other mode one of them has to count. -/
  others : result.task.mode ≠ .consensus →
    (result.succeeded = true ↔ ∃ response ∈ result.responses, response.success = true) ∧
    (result.succeeded = false → result.error = some .allWorkersFailed)

/-- The result says what became of its task, of whose dependencies some are unmet. -/
structure Judged (limits : RunSettings) (unmet : List String) (result : TaskResult) : Prop where
  /-- The task waited in vain exactly if something is unmet, -/
  waited_iff : result.WaitedInVain ↔ unmet ≠ []
  /-- and then the result says what it is, and no one was called. -/
  waited : unmet ≠ [] →
    result.error = some (.dependencyTimeout unmet limits.dependencyTimeout) ∧ result.responses = []
  /-- Otherwise there was nothing to do exactly if the task needs no worker; -/
  idle_iff : unmet = [] → (result.error = some .noWorkers ↔ result.task.workers = [])
  /-- then no one was called either. -/
  idle : unmet = [] → result.task.workers = [] → result.responses = []
  /-- Otherwise the task was too late and has no response, or its workers have decided. -/
  worked : unmet = [] → result.task.workers ≠ [] →
    (result.error = some (.deadlineExceeded limits.taskDeadline) ∧ result.responses = []) ∨
      result.Decided

variable {limits : RunSettings} {unmet : List String} {task : Task}

theorem judged_waited (h : unmet ≠ []) : Judged limits unmet
    { task, error := some (.dependencyTimeout unmet limits.dependencyTimeout) } where
  waited_iff := ⟨fun _ => h, fun _ => ⟨_, _, rfl⟩⟩
  waited := fun _ => ⟨rfl, rfl⟩
  idle_iff := fun hmet => absurd hmet h
  idle := fun hmet => absurd hmet h
  worked := fun hmet => absurd hmet h

/-- A task whose dependencies are met did not wait in vain. -/
theorem judged_of_met {result : TaskResult} (hvain : ¬ result.WaitedInVain)
    (hidle : result.error = some .noWorkers ↔ result.task.workers = [])
    (hnone : result.task.workers = [] → result.responses = [])
    (hworked : result.task.workers ≠ [] →
      (result.error = some (.deadlineExceeded limits.taskDeadline) ∧ result.responses = []) ∨
        result.Decided) : Judged limits [] result where
  waited_iff := ⟨fun hwaited => absurd hwaited hvain, fun hunmet => absurd rfl hunmet⟩
  waited := fun hunmet => absurd rfl hunmet
  idle_iff := fun _ => hidle
  idle := fun _ => hnone
  worked := fun _ => hworked

theorem judged_idle (h : task.workers = []) :
    Judged limits [] { task, error := some .noWorkers } :=
  judged_of_met (fun ⟨_, _, herror⟩ => by cases herror) ⟨fun _ => h, fun _ => rfl⟩ (fun _ => rfl)
    fun hsome => absurd h hsome

theorem judged_late (h : task.workers ≠ []) (seconds : Float) : Judged limits []
    { task, seconds, error := some (.deadlineExceeded limits.taskDeadline) } :=
  judged_of_met (fun ⟨_, _, herror⟩ => by cases herror)
    ⟨(fun herror => by cases herror), fun hnone => absurd hnone h⟩ (fun _ => rfl)
    fun _ => Or.inl ⟨rfl, rfl⟩

/-- A verdict over one response for each worker decides. -/
theorem decided_verdict {responses : List Response}
    (h : responses.map (·.worker) = task.workers) (seconds : Float) : Decided
      { task, responses, seconds, error := Execution.verdict task.mode responses } where
  workers := h
  consensus := by
    intro hmode
    dsimp only at hmode
    have hcount : (StoryDirector.successful responses).length = responses.countP (·.success) :=
      List.countP_eq_length_filter.symm
    simp only [succeeded, hmode, Execution.verdict, hcount]
    split
    · exact ⟨⟨(fun hnone => by cases hnone), fun hmajority => by omega⟩, fun _ => rfl⟩
    · exact ⟨⟨fun _ => by omega, fun _ => rfl⟩, (fun hsome => by cases hsome)⟩
  others := by
    intro hmode
    dsimp only at hmode
    have hverdict : Execution.verdict task.mode responses =
        if (StoryDirector.successful responses).length = 0 then some .allWorkersFailed
        else none := by
      cases htask : task.mode with
      | consensus => exact absurd htask hmode
      | _ => rfl
    have hnone : (StoryDirector.successful responses).length = 0 ↔
        ¬ ∃ response ∈ responses, response.success = true := by
      rw [List.length_eq_zero_iff, StoryDirector.successful, List.filter_eq_nil_iff]
      simp
    simp only [succeeded, hverdict]
    split
    case isTrue hzero =>
        exact ⟨⟨(fun hfalse => by cases hfalse), fun hsome => absurd hsome (hnone.mp hzero)⟩,
          fun _ => rfl⟩
    case isFalse hsome =>
        have hcounts := Decidable.not_not.mp (mt hnone.mpr hsome)
        exact ⟨⟨fun _ => hcounts, fun _ => rfl⟩, (fun hfalse => by cases hfalse)⟩

theorem judged_decided {responses : List Response} (h : task.workers ≠ [])
    (hworkers : responses.map (·.worker) = task.workers) (seconds : Float) : Judged limits []
      { task, responses, seconds, error := Execution.verdict task.mode responses } := by
  refine judged_of_met ?_ ⟨fun herror => ?_, fun hnone => absurd hnone h⟩
    (fun hnone => absurd hnone h) fun _ => Or.inr (decided_verdict hworkers seconds)
  · rintro ⟨missing, limit, herror⟩
    exact Execution.verdict_ne_dependencyTimeout _ _ _ _ herror
  · cases hmode : task.mode <;> simp [Execution.verdict, hmode] at herror

end TaskResult

/-! ### Tasks at work -/

namespace Execution

variable (setup : RunSetup) {execution : Execution} {engine : Engine}

/-- The calls of a task are signed, and with the workers that are yet to be called they are those of
the workers of the task. -/
structure Signed (execution : Execution) : Prop where
  /-- The calls are signed. -/
  calls : ∀ call ∈ execution.calls, call.Signed
  /-- They are calls of the first workers, and the others are yet to be called. -/
  workers : execution.calls.map (·.worker) ++ execution.waiting = execution.task.workers

theorem signed_begin (task : Task) (briefing : Briefing) (now : Instant) :
    (Execution.begin task briefing now).Signed := by
  rw [Execution.begin]
  split
  · refine ⟨fun call hcall => ?_, ?_⟩
    · obtain ⟨worker, -, rfl⟩ := List.mem_map.mp hcall
      trivial
    · rw [List.map_map, List.append_nil]
      exact List.map_id' task.workers
  · exact ⟨fun _ hcall => absurd hcall List.not_mem_nil, rfl⟩

/-- Calling the next workers moves them from those who wait to those who were called. -/
theorem signed_callNext (briefing : Briefing) {calls : List Call} (waiting : List WorkerKind)
    (h : engine.store.cache.Signed) (hcalls : ∀ call ∈ calls, call.Signed) :
    (callNext setup briefing calls waiting engine).1.store.cache.Signed ∧
      (∀ call ∈ (callNext setup briefing calls waiting engine).2.1, call.Signed) ∧
      (callNext setup briefing calls waiting engine).2.1.map (·.worker) ++
          (callNext setup briefing calls waiting engine).2.2 =
        calls.map (·.worker) ++ waiting := by
  induction waiting generalizing calls engine with
  | nil => exact ⟨h, hcalls, rfl⟩
  | cons worker rest ih =>
      rw [callNext]
      cases Call.responses? calls with
      | none => exact ⟨h, hcalls, rfl⟩
      | some responses =>
          -- All before it have answered, so the next worker is called and looked at.
          let next : Call :=
            { worker, briefing := { briefing with prior := briefing.prior ++ responses } }
          have hheld : next.Held (next.look setup engine) := Call.held_look setup h trivial
          dsimp only
          show (callNext setup briefing (calls ++ [(next.look setup engine).2]) rest
            (next.look setup engine).1).1.store.cache.Signed ∧ _
          generalize next.look setup engine = looked at hheld ⊢
          obtain ⟨seen, call⟩ := looked
          have hworker : call.worker = worker := hheld.worker
          have hmore : ∀ other ∈ calls ++ [call], other.Signed := by
            intro other hother
            rcases List.mem_append.mp hother with hother | hother
            · exact hcalls other hother
            · obtain rfl := List.mem_singleton.mp hother
              exact hheld.signed
          obtain ⟨hcache, hcalled, hworkers⟩ := ih hheld.cache hmore
          refine ⟨hcache, hcalled, hworkers.trans ?_⟩
          rw [List.map_append, List.map_singleton, hworker, List.append_assoc,
            List.singleton_append]

/-- What a look at a task at work comes to. -/
structure Weighed (setup : RunSetup) (execution : Execution) (seen : Engine × Standing Execution) :
    Prop where
  /-- The cache is signed. -/
  cache : seen.1.store.cache.Signed
  /-- The same task goes on, signed, -/
  going : ∀ next, seen.2 = .going next → next.task = execution.task ∧ next.Signed
  /-- or it is over, and the result says what became of it. -/
  ended : ∀ result, seen.2 = .over result →
    result.task = execution.task ∧ result.Judged setup.limits []

theorem weighed_look (h : engine.store.cache.Signed) (hexecution : execution.Signed)
    (hworkers : execution.task.workers ≠ []) :
    execution.Weighed setup (execution.look setup engine) := by
  obtain ⟨hseen, hlooked, hsame⟩ := Call.signed_lookAll setup h hexecution.calls
  rw [look]
  generalize Call.lookAll setup execution.calls engine = looked at hseen hlooked hsame ⊢
  obtain ⟨seen, calls⟩ := looked
  obtain ⟨hafter, hcalled, hmoved⟩ :=
    signed_callNext setup execution.briefing execution.waiting hseen hlooked
  dsimp only
  generalize callNext setup execution.briefing calls execution.waiting seen = called
    at hafter hcalled hmoved ⊢
  obtain ⟨after, called, waiting⟩ := called
  dsimp only at hsame hafter hcalled hmoved ⊢
  have hall : called.map (·.worker) ++ waiting = execution.task.workers := by
    rw [hmoved, hsame, hexecution.workers]
  split
  -- Either every worker has answered, or some have not.
  case h_1 responses hresponses =>
      refine ⟨hafter, (fun _ hother => by cases hother), fun result hresult => ?_⟩
      obtain rfl := Standing.over.inj hresult
      rw [responses?] at hresponses
      split at hresponses
      case isTrue hempty =>
          have hnone : waiting = [] := List.isEmpty_iff.mp hempty
          have hdone : responses.map (·.worker) = execution.task.workers := by
            rw [Call.workers_of_responses? hcalled hresponses, ← hall, hnone, List.append_nil]
          exact ⟨rfl, TaskResult.judged_decided hworkers hdone _⟩
      case isFalse => cases hresponses
  case h_2 =>
      split
      · refine ⟨?_, (fun _ hother => by cases hother), fun result hresult => ?_⟩
        · rw [Call.cache_abandonAll]
          exact hafter
        · obtain rfl := Standing.over.inj hresult
          exact ⟨rfl, TaskResult.judged_late hworkers _⟩
      · refine ⟨hafter, fun next hnext => ?_, (fun _ hother => by cases hother)⟩
        obtain rfl := Standing.going.inj hnext
        exact ⟨rfl, hcalled, hall⟩

end Execution

/-! ### Attempts -/

namespace Attempt

/-- A task at work is signed, needs workers and found all that it depends on. -/
def Honest (ledger : Ledger) : Attempt → Prop
  | .waiting _ _ => True
  | .executing execution =>
    execution.Signed ∧ execution.task.workers ≠ [] ∧
      ledger.missing execution.task.dependsOn = []

end Attempt

namespace Run

variable (setup : RunSetup) {run : Run} {engine : Engine}

/-- What a look at an attempt comes to. -/
structure Weighed (setup : RunSetup) (run : Run) (seen : Engine × Standing Attempt) : Prop where
  /-- The cache is signed. -/
  cache : seen.1.store.cache.Signed
  /-- The attempt goes on honestly, -/
  going : ∀ next, seen.2 = .going next → next.Honest run.ledger
  /-- or it is over, and the result says what became of the task. -/
  ended : ∀ result, seen.2 = .over result →
    result.Judged setup.limits (run.ledger.missing result.task.dependsOn)

theorem weighed_executing (h : engine.store.cache.Signed) {execution : Execution}
    (hhonest : (Attempt.executing execution).Honest run.ledger) :
    run.Weighed setup (run.lookAttempt setup (.executing execution) engine) := by
  obtain ⟨hsigned, hworkers, hmet⟩ := hhonest
  have hweighed := Execution.weighed_look setup h hsigned hworkers
  rw [lookAttempt]
  generalize execution.look setup engine = looked at hweighed ⊢
  obtain ⟨after, standing⟩ := looked
  rcases standing with next | result
  · obtain ⟨htask, hnext⟩ := hweighed.going next rfl
    refine ⟨hweighed.cache, fun other hother => ?_, (fun _ hother => by cases hother)⟩
    obtain rfl := Standing.going.inj hother
    rw [← htask] at hworkers hmet
    exact ⟨hnext, hworkers, hmet⟩
  · obtain ⟨htask, hjudged⟩ := hweighed.ended result rfl
    refine ⟨hweighed.cache, (fun _ hother => by cases hother), fun other hother => ?_⟩
    obtain rfl := Standing.over.inj hother
    rw [htask, hmet]
    exact hjudged

theorem weighed_waiting (h : engine.store.cache.Signed) (task : Task) (since : Instant) :
    run.Weighed setup (run.lookAttempt setup (.waiting task since) engine) := by
  have hwaited := waited_lookAttempt setup run engine task since
  generalize run.lookAttempt setup (.waiting task since) engine = seen at hwaited ⊢
  cases hwaited with
  | waits hearly =>
      refine ⟨h, fun next hnext => ?_, (fun _ hother => by cases hother)⟩
      obtain rfl := Standing.going.inj hnext
      trivial
  | vain hmissing =>
      refine ⟨h, (fun _ hother => by cases hother), fun result hresult => ?_⟩
      obtain rfl := Standing.over.inj hresult
      exact TaskResult.judged_waited hmissing
  | idle hmet hworkers =>
      refine ⟨h, (fun _ hother => by cases hother), fun result hresult => ?_⟩
      obtain rfl := Standing.over.inj hresult
      dsimp only
      rw [hmet]
      exact TaskResult.judged_idle hworkers
  | begins hmet hworkers =>
      have htold : (engine.notify setup (Progress.taskStarted run.session.id task
          run.ledger.results.length run.total)).store.cache.Signed := h
      refine weighed_executing setup htold ⟨Execution.signed_begin task _ _, ?_, ?_⟩
      · rw [Execution.task_begin]
        exact hworkers
      · rw [Execution.task_begin, hmet]

/-- A look at any attempt. -/
theorem weighed_lookAttempt (h : engine.store.cache.Signed) {attempt : Attempt}
    (hhonest : attempt.Honest run.ledger) :
    run.Weighed setup (run.lookAttempt setup attempt engine) := by
  cases attempt with
  | waiting task since => exact weighed_waiting setup h task since
  | executing execution => exact weighed_executing setup h hhonest

/-! ### Runs -/

/-- The attempt under way is honest. -/
def Honest (run : Run) : Prop :=
  ∀ attempt todo, run.stage = .busy attempt todo → attempt.Honest run.ledger

theorem honest_busy {attempt : Attempt} {todo : List Task} (h : attempt.Honest run.ledger) :
    Honest { run with stage := .busy attempt todo } := by
  intro other others hstage
  obtain ⟨rfl, -⟩ := RunStage.busy.inj hstage
  exact h

/-- What a look at the attempt of an honest run comes to. -/
theorem weighed_of_look {setup : RunSetup} {attempt : Attempt} {todo : List Task}
    {seen : Engine × Standing Attempt} (h : engine.store.cache.Signed)
    (hhonest : Honest { run with stage := .busy attempt todo })
    (hlook : run.lookAttempt setup attempt engine = seen) : run.Weighed setup seen := by
  have hattempt : attempt.Honest run.ledger := hhonest attempt todo rfl
  rw [← hlook]
  exact weighed_lookAttempt setup h hattempt

theorem honest_stageOf {now : Instant} {todo : List Task} (h : run.stage = stageOf now todo) :
    run.Honest := by
  intro attempt others hstage
  rw [h] at hstage
  cases todo with
  | nil => cases hstage
  | cons task rest =>
      obtain ⟨rfl, -⟩ := RunStage.busy.inj hstage
      trivial

theorem honest_begin (tasks : List Task) (action : PlayerAction) (kind : ActionKind)
    (session : Session) (now : Instant) : (begin tasks action kind session now).Honest :=
  honest_stageOf rfl

theorem store_close (run : Run) (setup : RunSetup) (result : TaskResult) (engine : Engine) :
    (run.close setup result engine).1.store = engine.store := by
  rw [close]
  cases result.error <;> rfl

theorem cache_abandonAttempt (attempt : Attempt) (engine : Engine) :
    (abandonAttempt attempt engine).store.cache = engine.store.cache := by
  cases attempt with
  | waiting task since => rfl
  | executing execution => exact Call.cache_abandonAll execution.calls engine

theorem cache_abandon (run : Run) (engine : Engine) :
    (run.abandon engine).store.cache = engine.store.cache := by
  rw [abandon]
  split
  case h_1 | h_2 => rfl
  case h_3 attempt todo hstage => exact cache_abandonAttempt attempt engine

/-- Whatever a look at a run does, the cache stays signed and the run honest. -/
theorem keeps_honest (setup : RunSetup) :
    Keeps setup fun engine run => engine.store.cache.Signed ∧ run.Honest where
  going := by
    rintro engine after run attempt next todo ⟨hcache, hhonest⟩ hlook
    have hweighed := weighed_of_look hcache hhonest hlook
    exact ⟨hweighed.cache, honest_busy (hweighed.going next rfl)⟩
  ended := by
    rintro engine after run attempt result todo ⟨hcache, hhonest⟩ hlook
    have hweighed := weighed_of_look hcache hhonest hlook
    refine ⟨?_, honest_stageOf rfl⟩
    rw [store_close]
    exact hweighed.cache
  stopped := by
    rintro engine run attempt todo ⟨hcache, -⟩
    refine ⟨?_, fun _ _ hstage => by cases hstage⟩
    rw [cache_abandonAttempt]
    exact hcache

end Run

/-- Each result says what became of its task, given the tasks before it. -/
def Ledger.Judged (limits : RunSettings) (ledger : Ledger) : Prop :=
  ∀ before result after, ledger.results = before ++ result :: after →
    result.Judged limits (result.task.unmet (before.map (·.task)))

theorem Ledger.judged_empty (limits : RunSettings) : Ledger.Judged limits {} := by
  intro before result after hsplit
  simp at hsplit

theorem Ledger.judged_record {limits : RunSettings} {ledger : Ledger} (h : ledger.Judged limits)
    {result : TaskResult} (hresult : result.Judged limits (ledger.missing result.task.dependsOn)) :
    (ledger.record result).Judged limits := by
  intro before other after hsplit
  rcases results_record_cases hsplit with ⟨rfl, rfl⟩ | ⟨rest, hold⟩
  · rw [← missing_eq_unmet]
    exact hresult
  · exact h before other rest hold

namespace Run

/-- With that, each result that is recorded says what became of its task. -/
theorem keeps_judged (setup : RunSetup) :
    Keeps setup fun engine run =>
      (engine.store.cache.Signed ∧ run.Honest) ∧ run.ledger.Judged setup.limits where
  going := fun ⟨hhonest, hjudged⟩ hlook => ⟨(keeps_honest setup).going hhonest hlook, hjudged⟩
  ended := by
    rintro engine after run attempt result todo ⟨hhonest, hjudged⟩ hlook
    have hweighed := weighed_of_look hhonest.1 hhonest.2 hlook
    exact ⟨(keeps_honest setup).ended hhonest hlook,
      Ledger.judged_record hjudged (hweighed.ended result rfl)⟩
  stopped := fun ⟨hhonest, hjudged⟩ => ⟨(keeps_honest setup).stopped hhonest, hjudged⟩

end Run

/-- Whatever engine comes about, its cache is signed and its runs are honest. -/
theorem Engine.Reached.signed {registry : Registry} {engine : Engine} {runs : List Run}
    (h : Engine.Reached registry engine runs) :
    engine.store.cache.Signed ∧ ∀ run ∈ runs, run.Honest := by
  induction h with
  | opened engine ttl maxEntries =>
      exact ⟨fun entry hentry => absurd hentry List.not_mem_nil,
        fun run hrun => absurd hrun List.not_mem_nil⟩
  | begin _ tasks action kind session ih =>
      refine ⟨ih.1, fun run hrun => ?_⟩
      rcases List.mem_cons.mp hrun with rfl | hrun
      · exact Run.honest_begin tasks action kind session _
      · exact ih.2 run hrun
  | @look engine before after run _ setup _ cancelled ih =>
      obtain ⟨hcache, hhonest⟩ := ih
      have hrun : run.Honest := hhonest run (List.mem_append_right _ List.mem_cons_self)
      obtain ⟨hseen, hlooked⟩ :=
        Run.look_induction (Run.keeps_honest setup) cancelled ⟨hcache, hrun⟩
      refine ⟨hseen, fun other hother => ?_⟩
      rcases List.mem_append.mp hother with hother | hother
      · exact hhonest other (List.mem_append_left _ hother)
      · rcases List.mem_cons.mp hother with rfl | hother
        · exact hlooked
        · exact hhonest other (List.mem_append_right _ (List.mem_cons_of_mem _ hother))
  | @leave engine before after run _ ih =>
      obtain ⟨hcache, hhonest⟩ := ih
      refine ⟨?_, fun other hother => hhonest other ?_⟩
      · rw [Run.cache_abandon]
        exact hcache
      · rcases List.mem_append.mp hother with hother | hother
        · exact List.mem_append_left _ hother
        · exact List.mem_append_right _ (List.mem_cons_of_mem _ hother)
  | wind _ now ih => exact ih

namespace Run

/-- A run on an engine with a signed cache: all its results say what became of their tasks, also if
it is cancelled. -/
theorem judged_play {engine : Engine} (h : engine.store.cache.Signed) (setup : RunSetup)
    (tasks : List Task) (action : PlayerAction) (kind : ActionKind) (session : Session)
    (cancelAfter : Option Duration) :
    (play setup engine (begin tasks action kind session engine.now)
      cancelAfter).2.ledger.Judged setup.limits := by
  have hbegin : (engine.store.cache.Signed ∧
      (begin tasks action kind session engine.now).Honest) ∧
      (begin tasks action kind session engine.now).ledger.Judged setup.limits :=
    ⟨⟨h, honest_begin tasks action kind session engine.now⟩, Ledger.judged_empty _⟩
  exact (play_induction (keeps_judged setup) (fun _ hheld => hheld) hbegin cancelAfter).2

/-- **A run that no one cancels ends with one result for each of its tasks, in their order, and each
says what became of its task**, whatever the workers do and whatever engine earlier runs have left
behind. -/
theorem every_task_judged {registry : Registry} {engine : Engine} {runs : List Run}
    (hengine : Engine.Reached registry engine runs) (setup : RunSetup) (tasks : List Task)
    (action : PlayerAction) (kind : ActionKind) (session : Session) :
    let ended := (play setup engine (begin tasks action kind session engine.now) none).2
    ended.stage = .finished ∧ ended.ledger.results.map (·.task) = tasks ∧
      ∀ before result after, ended.ledger.results = before ++ result :: after →
        result.Judged setup.limits (result.task.unmet (before.map (·.task))) := by
  intro ended
  obtain ⟨hfinished, htasks, -⟩ := play_spec setup engine tasks action kind session
  exact ⟨hfinished, htasks, judged_play hengine.signed.1 setup tasks action kind session none⟩

end Run

/-- A task that depends on another and on one that is not there. -/
def Task.lost : Task where
  id := "ponder"
  name := "ponder"
  workers := [.historian]
  mode := .sequential
  dependsOn := ["elsewhere", "recall"]

/-- Of the results of both, if they say what became of them, the second waits for the one that is
not there, and for that only. -/
theorem Task.lost_of_judged {limits : RunSettings} {results : List TaskResult}
    (htasks : results.map (·.task) = [Task.steady, Task.lost])
    (hjudged : ∀ before result after, results = before ++ result :: after →
      result.Judged limits (result.task.unmet (before.map (·.task)))) :
    ∃ first second, results = [first, second] ∧ first.task = Task.steady ∧
      ¬ first.WaitedInVain ∧ second.responses = [] ∧
      second.error = some (.dependencyTimeout ["elsewhere"] limits.dependencyTimeout) := by
  obtain ⟨first, rest, rfl, hfirst, hrest⟩ := List.map_eq_cons_iff.mp htasks
  obtain ⟨second, none, rfl, hsecond, hnone⟩ := List.map_eq_cons_iff.mp hrest
  obtain rfl := List.map_eq_nil_iff.mp hnone
  have hfirstJudged := hjudged [] first [second] rfl
  have hsecondJudged := hjudged [first] second [] rfl
  have hmet : Task.steady.unmet [] = [] := rfl
  have hunmet : Task.lost.unmet [Task.steady] = ["elsewhere"] := by decide
  rw [List.map_nil, hfirst, hmet] at hfirstJudged
  rw [List.map_singleton, hfirst, hsecond, hunmet] at hsecondJudged
  obtain ⟨herror, hnone⟩ := hsecondJudged.waited (List.cons_ne_nil _ _)
  exact ⟨first, second, rfl, hfirst, fun hvain => hfirstJudged.waited_iff.mp hvain rfl, hnone,
    herror⟩

/-- Both are run on an engine on which the first was run before. -/
theorem Run.every_task_judged_lost :
    let ended := (Run.play RunSetup.steady Engine.steady (Run.begin [Task.steady, Task.lost]
      { text := "look" } .dialogue { id := ⟨7⟩, turn := 1 } Engine.steady.now) none).2
    ended.stage = .finished ∧ ∃ first second, ended.ledger.results = [first, second] ∧
      first.task = Task.steady ∧ ¬ first.WaitedInVain ∧ second.responses = [] ∧
      second.error =
        some (.dependencyTimeout ["elsewhere"] RunSetup.steady.limits.dependencyTimeout) := by
  have hopened : Engine.Reached RunSetup.steady.registry (Engine.create {} {}) [] :=
    Engine.Reached.opened (Engine.create {} {}) _ _
  have hsteady : Engine.Reached RunSetup.steady.registry Engine.steady _ :=
    hopened.play rfl [Task.steady] { text := "look" } .dialogue { id := ⟨7⟩, turn := 1 } none
  have hends := Run.every_task_judged hsteady RunSetup.steady [Task.steady, Task.lost]
    { text := "look" } .dialogue { id := ⟨7⟩, turn := 1 }
  exact ⟨hends.1, Task.lost_of_judged hends.2.1 hends.2.2⟩

end StoryDirector
