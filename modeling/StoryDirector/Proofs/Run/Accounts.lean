import StoryDirector.Proofs.Run.Alarms
import StoryDirector.Proofs.Run.AtOnce
import StoryDirector.Proofs.Run.Books
import StoryDirector.Proofs.Run.Hearing
import StoryDirector.Proofs.Run.Verdict
/-!
# StoryDirector.Proofs.Run.Accounts

What the counts of the cache and the timings of the workers come to over a history of runs. **As
long as no run is cancelled and no task is out of time, each miss is a call that a worker heard,
hits and misses together are the calls of workers that are there, and of each worker the last
durations are kept, those of its calls in the order in which it heard them**
(`Engine.calls_accounted`).

Within a task the books are kept call by call (`Engine.Books`). Between tasks no call is under way,
so what is carried from task to task, and from run to run, is a number: how many calls the results
so far account for (`TaskResult.totalCalls`). A task that is out of time breaks this, because its
calls are given up: a worker heard one and its duration is never kept.
-/

namespace StoryDirector

/-! ### What results account for -/

namespace TaskResult

/-- The task was out of time. -/
def IsLate (result : TaskResult) : Prop :=
  ∃ limit, result.error = some (.deadlineExceeded limit)

/-- How many calls of workers that are there a task has made that was in time: none if it has waited
in vain, and otherwise one for each time it names such a worker. -/
def calls (registry : Registry) (result : TaskResult) : Nat :=
  match result.error with
  | some (.dependencyTimeout _ _) => 0
  | _ => result.task.workers.countP registry.has

theorem calls_of_vain {result : TaskResult} (h : result.WaitedInVain) (registry : Registry) :
    result.calls registry = 0 := by
  obtain ⟨missing, limit, herror⟩ := h
  simp [calls, herror]

theorem calls_of_not_vain {result : TaskResult} (h : ¬ result.WaitedInVain) (registry : Registry) :
    result.calls registry = result.task.workers.countP registry.has := by
  unfold calls
  split
  case h_1 missing limit herror => exact absurd ⟨missing, limit, herror⟩ h
  case h_2 => rfl

/-- How many such calls the tasks of some results have made. -/
def totalCalls (registry : Registry) (results : List TaskResult) : Nat :=
  Clockwork.total (results.map (calls registry))

theorem totalCalls_append (registry : Registry) (results more : List TaskResult) :
    totalCalls registry (results ++ more) =
      totalCalls registry results + totalCalls registry more := by
  simp [totalCalls, Clockwork.total_append]

end TaskResult

/-- The calls that are under way. -/
def Attempt.calls : Attempt → List Call
  | .waiting _ _ => []
  | .executing execution => execution.calls

namespace Run

variable {setup : RunSetup} {run : Run} {attempt : Attempt} {engine : Engine} {tasks : List Task}
  {action : PlayerAction} {kind : ActionKind} {session : Session} {window total : Nat}

/-- The calls that are under way. -/
def underway (run : Run) : List Call :=
  match run.stage with
  | .busy attempt _ => attempt.calls
  | .finished | .cancelled => []

/-! ### Attempts -/

/-- What a look at an attempt makes of the books. -/
structure Accounted (registry : Registry) (window total : Nat) (seen : Engine × Standing Attempt) :
    Prop where
  /-- If it goes on, they are kept with its calls, -/
  going : ∀ next, seen.2 = .going next → seen.1.Books registry window total next.calls
  /-- and if it is over in time, they are kept with what the result accounts for. -/
  ended : ∀ result, seen.2 = .over result → ¬ result.IsLate →
    seen.1.Books registry window (total + result.calls registry) []

theorem accounted_executing {execution : Execution} (hinformed : execution.Informed)
    (h : engine.Books setup.registry window total execution.calls) (run : Run) :
    Accounted setup.registry window total
      (run.lookAttempt setup (.executing execution) engine) := by
  have hacted := Execution.act_induction (Engine.kept_books setup window total).upheld h
  obtain ⟨hinformedActed, -⟩ := Execution.informed_act hinformed setup engine
  rw [lookAttempt]
  rcases Execution.look_of_act execution setup engine with
    ⟨result, hover, htask, hresponses, herror⟩ | ⟨result, hover, -, -, herror, -⟩ | hgoes
  · rw [hover]
    refine ⟨(fun _ hnext => by cases hnext), fun other hother hintime => ?_⟩
    obtain rfl := Standing.over.inj hother
    have hserved : ¬ result.WaitedInVain := by
      intro hvain
      obtain ⟨missing, limit, hlimit⟩ := hvain
      exact Execution.verdict_ne_dependencyTimeout _ _ _ _ (herror.symm.trans hlimit)
    -- All workers were called, and all calls were answered.
    obtain ⟨hnone, hanswered⟩ := Execution.responses?_eq_some.mp hresponses
    have hsettled := hacted.settle (Call.answered_of_responses? hanswered)
    have hworkers : (execution.act setup engine).2.calls.map (·.worker) ++
        (execution.act setup engine).2.waiting = execution.task.workers := hinformedActed.workers
    rw [hnone, List.append_nil] at hworkers
    rw [TaskResult.calls_of_not_vain hserved, htask, ← hworkers]
    exact hsettled
  · rw [hover]
    refine ⟨(fun _ hnext => by cases hnext), fun other hother hintime => ?_⟩
    obtain rfl := Standing.over.inj hother
    exact absurd ⟨_, herror⟩ hintime
  · rw [hgoes]
    refine ⟨fun next hnext => ?_, fun _ hother => by cases hother⟩
    obtain rfl := Standing.going.inj hnext
    exact hacted

theorem accounted_waiting (h : engine.Books setup.registry window total []) (run : Run)
    (task : Task) (since : Instant) :
    Accounted setup.registry window total
      (run.lookAttempt setup (.waiting task since) engine) := by
  have hnone : ∀ call ∈ ([] : List Call), ∀ due, call.alarm = some due → engine.now ≤ due :=
    fun _ hcall => absurd hcall List.not_mem_nil
  have htold : (engine.notify setup (Progress.taskStarted run.session.id task
      run.ledger.results.length run.total)).Books setup.registry window total [] :=
    h.later rfl rfl rfl hnone
  have hwaited := waited_lookAttempt setup run engine task since
  generalize run.lookAttempt setup (.waiting task since) engine = seen at hwaited ⊢
  cases hwaited with
  | waits hearly =>
      refine ⟨fun next hnext => ?_, fun _ hother => by cases hother⟩
      obtain rfl := Standing.going.inj hnext
      exact h
  | vain hmissing =>
      refine ⟨(fun _ hnext => by cases hnext), fun result hresult _ => ?_⟩
      obtain rfl := Standing.over.inj hresult
      rw [TaskResult.calls_of_vain ⟨_, _, rfl⟩]
      exact h
  | idle hmet hworkers =>
      refine ⟨(fun _ hnext => by cases hnext), fun result hresult _ => ?_⟩
      obtain rfl := Standing.over.inj hresult
      simpa [TaskResult.calls, hworkers] using htold
  | begins hmet hworkers =>
      have hfresh := Execution.fresh_begin task (run.briefing setup task) engine.now
      refine accounted_executing (Execution.informed_begin _ _ _) ?_ run
      refine htold.join (fun _ hcall => absurd hcall List.not_mem_nil)
        (fun call hcall => (hfresh call hcall).1) fun one hone other hother => ?_
      rw [(hfresh one hone).2, (hfresh other hother).2]

/-- A look at any attempt. -/
theorem accounted_lookAttempt (hinformed : attempt.Informed setup run)
    (h : engine.Books setup.registry window total attempt.calls) :
    Accounted setup.registry window total (run.lookAttempt setup attempt engine) := by
  cases attempt with
  | waiting task since => exact accounted_waiting h run task since
  | executing execution => exact accounted_executing hinformed.1 h run

/-! ### Runs -/

/-- What is known of the books in the course of a run: they are kept with the calls that are under
way, after those that the results account for, unless a task was out of time. -/
def Booked (setup : RunSetup) (window total : Nat) (engine : Engine) (run : Run) : Prop :=
  run.stage ≠ .cancelled → (∀ result ∈ run.ledger.results, ¬ result.IsLate) →
    engine.Books setup.registry window
      (total + TaskResult.totalCalls setup.registry run.ledger.results) run.underway

theorem timings_close (run : Run) (setup : RunSetup) (result : TaskResult) (engine : Engine) :
    (run.close setup result engine).1.timings = engine.timings := by
  unfold close
  cases result.error <;> rfl

theorem underway_stageOf (run : Run) (now : Instant) (todo : List Task) :
    underway { run with stage := stageOf now todo } = [] := by
  cases todo <;> rfl

/-- Every look keeps the books. -/
theorem keeps_booked (setup : RunSetup) (tasks : List Task) (action : PlayerAction)
    (kind : ActionKind) (session : Session) (window total : Nat) :
    Keeps setup fun engine run =>
      Briefed setup tasks action kind session run ∧ Booked setup window total engine run where
  going := by
    intro engine after run attempt next todo h hlook
    obtain ⟨hbriefed, hbooked⟩ := h
    refine ⟨(keeps_briefed setup tasks action kind session).going hbriefed hlook,
      fun _ hintime => ?_⟩
    have hinformed : attempt.Informed setup run := hbriefed.informed attempt todo rfl
    have hbooks := hbooked (fun hstopped => by cases hstopped) hintime
    have haccounted := accounted_lookAttempt hinformed hbooks
    rw [hlook] at haccounted
    exact haccounted.going next rfl
  ended := by
    intro engine after run attempt result todo h hlook
    obtain ⟨hbriefed, hbooked⟩ := h
    refine ⟨(keeps_briefed setup tasks action kind session).ended hbriefed hlook,
      fun _ hintime => ?_⟩
    have hresults : (run.close setup result after).2.ledger.results =
        run.ledger.results ++ [result] := rfl
    rw [hresults] at hintime ⊢
    have hinformed : attempt.Informed setup run := hbriefed.informed attempt todo rfl
    have hbooks := hbooked (fun hstopped => by cases hstopped)
      fun earlier hearlier => hintime earlier (List.mem_append_left _ hearlier)
    have haccounted := accounted_lookAttempt hinformed hbooks
    rw [hlook] at haccounted
    have hended := haccounted.ended result rfl (hintime result (by simp))
    rw [underway_stageOf, TaskResult.totalCalls_append, ← Nat.add_assoc]
    have hone : TaskResult.totalCalls setup.registry [result] = result.calls setup.registry :=
      Nat.add_zero _
    rw [hone]
    exact hended.later (store_close run setup result after) (hearings_close run setup result after)
      (timings_close run setup result after) fun _ hcall => absurd hcall List.not_mem_nil
  stopped := by
    intro engine run attempt todo h
    have hkeeps := keeps_briefed setup tasks action kind session
    exact ⟨@Keeps.stopped _ _ hkeeps engine _ _ _ h.1, fun hgoes => absurd rfl hgoes⟩

/-- Winding the clock to an alarm leaves every worker the time that it said it would take. -/
theorem Booked.wind {instant : Instant} (h : Booked setup window total engine run)
    (hahead : ∀ due, run.alarm setup = some due → instant ≤ due) :
    Booked setup window total { engine with now := instant } run := by
  intro hgoes hintime
  refine (h hgoes hintime).later rfl rfl rfl fun call hcall due hdue => ?_
  cases hstage : run.stage with
  | finished | cancelled => simp [underway, hstage] at hcall
  | busy attempt todo =>
      cases attempt with
      | waiting task since => simp [underway, hstage, Attempt.calls] at hcall
      | executing execution =>
          have hin : call ∈ execution.calls := by
            simpa [underway, hstage, Attempt.calls] using hcall
          have hset : some due ∈
              some (execution.deadline setup) :: execution.calls.map Call.alarm := by
            rw [← hdue]
            exact List.mem_cons_of_mem _ (List.mem_map_of_mem hin)
          obtain ⟨first, hfirst, hle⟩ := Clockwork.exists_earliest hset
          have halarm : run.alarm setup = some first := by
            rw [alarm, hstage]
            exact hfirst
          exact Nat.le_trans (hahead first halarm) hle

/-- A run that no one cancels keeps the books, if all its tasks are in time. -/
theorem books_play (h : engine.Books setup.registry window total []) (tasks : List Task)
    (action : PlayerAction) (kind : ActionKind) (session : Session) :
    let ended := play setup engine (begin tasks action kind session engine.now) none
    (∀ result ∈ ended.2.ledger.results, ¬ result.IsLate) →
      ended.1.Books setup.registry window
        (total + TaskResult.totalCalls setup.registry ended.2.ledger.results) [] := by
  intro ended hintime
  have hbegin : Briefed setup tasks action kind session
        (begin tasks action kind session engine.now) ∧
      Booked setup window total engine (begin tasks action kind session engine.now) := by
    refine ⟨briefed_begin setup tasks action kind session engine.now, fun _ _ => ?_⟩
    have hnone : (begin tasks action kind session engine.now).underway = [] :=
      underway_stageOf (begin tasks action kind session engine.now) engine.now tasks
    rw [hnone]
    exact h
  have hends := play_induction (keeps_booked setup tasks action kind session window total)
    (fun hahead hheld => ⟨hheld.1, hheld.2.wind hahead⟩) hbegin none
  obtain ⟨hfinished, -⟩ := play_spec setup engine tasks action kind session
  have hgoes : ended.2.stage ≠ .cancelled := by
    rw [hfinished]
    exact RunStage.noConfusion
  have hnone : ended.2.underway = [] := by rw [underway, hfinished]
  rw [← hnone]
  exact hends.2 hgoes hintime

end Run

/-! ### Summaries -/

/-- There is one summary for each worker of which durations are kept, in the order of the
workers. -/
theorem Timings.map_stats (timings : Timings) :
    timings.stats.map (fun stat => (stat.worker, stat.samples)) =
      (WorkerKind.all.filter fun kind => !(timings.samples kind).isEmpty).map fun kind =>
        (kind, (timings.samples kind).length) := by
  unfold stats
  induction WorkerKind.all with
  | nil => rfl
  | cons kind rest ih =>
      cases hsamples : timings.samples kind with
      | nil => simp [stat?, average?, mean?, hsamples, ih]
      | cons first others =>
          have hlast : (first :: others).getLast? = some ((first :: others).getLast (by simp)) :=
            List.getLast?_eq_some_getLast _
          simp [stat?, average?, mean?, hsamples, hlast, ih]

theorem Registry.length_durations {registry : Registry} {kind : WorkerKind}
    {heard : List Briefing} (h : registry.get? kind = none → heard = []) :
    (registry.durations kind heard).length = heard.length := by
  unfold durations
  cases hworker : registry.get? kind with
  | none => simp [h hworker]
  | some worker => simp

/-! ### Histories -/

namespace Engine

variable {cache : CacheSettings} {limits : RunSettings} {registry : Registry} {engine : Engine}
  {results : List TaskResult}

/-- The engines that come about when runs with the workers of a registry are played one after
another on a new engine, none of them cancelled, each with the results of all its runs. -/
inductive Played (cache : CacheSettings) (limits : RunSettings) (registry : Registry) :
    Engine → List TaskResult → Prop where
  /-- No run was played. -/
  | opened : Played cache limits registry (Engine.create cache limits) []
  /-- One more run is played to its end. -/
  | play {engine : Engine} {results : List TaskResult}
      (h : Played cache limits registry engine results) (setup : RunSetup)
      (hsetup : setup.registry = registry) (tasks : List Task) (action : PlayerAction)
      (kind : ActionKind) (session : Session) :
      Played cache limits registry
        (Run.play setup engine (Run.begin tasks action kind session engine.now) none).1
        (results ++ (Run.play setup engine (Run.begin tasks action kind session engine.now)
          none).2.ledger.results)
  /-- Time passes. -/
  | wait {engine : Engine} {results : List TaskResult}
      (h : Played cache limits registry engine results) (span : Duration) :
      Played cache limits registry { engine with now := engine.now + span } results

/-- Between two runs the books are kept with what all results account for. -/
theorem Played.books (h : Played cache limits registry engine results)
    (hintime : ∀ result ∈ results, ¬ result.IsLate) :
    engine.Books registry (max limits.statsWindow 1) (TaskResult.totalCalls registry results)
      [] := by
  induction h with
  | opened => exact books_create registry cache limits
  | play _ setup hsetup tasks action kind session ih =>
      subst hsetup
      have hbefore := ih fun result hresult => hintime result (List.mem_append_left _ hresult)
      rw [TaskResult.totalCalls_append]
      exact Run.books_play hbefore tasks action kind session fun result hresult =>
        hintime result (List.mem_append_right _ hresult)
  | wait _ span ih =>
      exact (ih hintime).later rfl rfl rfl fun _ hcall => absurd hcall List.not_mem_nil

/-- Such engines are among those that come about in any way. -/
theorem Played.exists_reached (h : Played cache limits registry engine results) :
    ∃ runs, Reached registry engine runs := by
  induction h with
  | opened => exact ⟨[], Reached.opened (Engine.create cache limits) _ _⟩
  | play _ setup hsetup tasks action kind session ih =>
      obtain ⟨runs, hruns⟩ := ih
      exact ⟨_, hruns.play hsetup tasks action kind session none⟩
  | wait _ span ih =>
      obtain ⟨runs, hruns⟩ := ih
      exact ⟨runs, hruns.wind _⟩

/-- With workers that answer at once and from the question alone, a run of tasks that can be run as
they stand has the results that it has when nothing is timed. -/
theorem Played.play_of_ready {setup : RunSetup} {answer : AnswerRule}
    (h : Played cache limits setup.registry engine results)
    (hprompt : setup.registry.Prompt answer) {tasks : List Task} (hready : Task.Ready [] tasks)
    (action : PlayerAction) (kind : ActionKind) (session : Session) :
    Played cache limits setup.registry
      (Run.play setup engine (Run.begin tasks action kind session engine.now) none).1
      (results ++ (Run.promptly setup answer tasks action kind session).ledger.results) := by
  obtain ⟨runs, hruns⟩ := h.exists_reached
  rw [← Run.play_of_ready hprompt (hruns.fair hprompt).1 hready]
  exact h.play setup rfl tasks action kind session

/-- **The counts of the cache and the timings of the workers agree with the calls.** Whatever runs
were played one after another on a new engine, if no task was out of time:

* every miss is a call that a worker heard;
* hits and misses together are the calls that the tasks have made of workers that are there;
* of each worker the durations of its last calls are kept, in the order in which it heard them, as
  many as there is room for;
* there is one summary for each worker that heard anything, in the order of the workers. -/
theorem calls_accounted (h : Played cache limits registry engine results)
    (hintime : ∀ result ∈ results, ∀ limit, result.error ≠ some (.deadlineExceeded limit)) :
    let room := max limits.statsWindow 1
    engine.store.cache.misses = engine.hearings.length ∧
      engine.store.cache.hits + engine.store.cache.misses =
        TaskResult.totalCalls registry results ∧
      (∀ kind, engine.timings.samples kind =
        Recent.lastOf room (registry.durations kind (engine.heardBy kind))) ∧
      engine.timings.stats.map (fun stat => (stat.worker, stat.samples)) =
        (WorkerKind.all.filter fun kind => !(engine.heardBy kind).isEmpty).map fun kind =>
          (kind, min (engine.heardBy kind).length room) := by
  intro room
  obtain ⟨-, hbalances⟩ := h.books fun result hresult hlate =>
    hlate.elim fun limit herror => hintime result hresult limit herror
  have hsamples : ∀ kind, engine.timings.samples kind =
      Recent.lastOf room (registry.durations kind (engine.heardBy kind)) := by
    intro kind
    obtain ⟨past, hkept, hpast⟩ := hbalances.timed kind
    rw [List.filterMap_nil, List.append_nil] at hpast
    rw [hkept, hpast]
  have hlength : ∀ kind, (engine.timings.samples kind).length =
      min (engine.heardBy kind).length room := by
    intro kind
    rw [hsamples, Recent.length_lastOf, Registry.length_durations (hbalances.known kind),
      Nat.min_comm]
  refine ⟨hbalances.served, hbalances.counted, hsamples, ?_⟩
  -- There is room for at least one duration, so a worker that heard anything has a summary.
  have hempty : ∀ kind, (engine.timings.samples kind).isEmpty = (engine.heardBy kind).isEmpty := by
    intro kind
    have hroom : 1 ≤ room := Nat.le_max_right _ _
    have hsame := hlength kind
    rw [Bool.eq_iff_iff, List.isEmpty_iff_length_eq_zero, List.isEmpty_iff_length_eq_zero, hsame]
    omega
  simp only [Timings.map_stats, hlength, hempty]

/-- A task is run, and then again together with one that also names a worker that is not there: the
three calls of the worker that is there are accounted for. -/
theorem calls_accounted_steady :
    let opened := Engine.create {} {}
    let once := (Run.play RunSetup.steady opened (Run.begin [Task.steady] { text := "look" }
      .dialogue { id := ⟨7⟩, turn := 1 } opened.now) none).1
    let twice := (Run.play RunSetup.steady once (Run.begin [Task.steady, Task.echo]
      { text := "look" } .dialogue { id := ⟨7⟩, turn := 1 } once.now) none).1
    twice.store.cache.misses = twice.hearings.length ∧
      twice.store.cache.hits + twice.store.cache.misses = 3 ∧
      twice.timings.samples .historian = Recent.lastOf 10
        (RunSetup.steady.registry.durations .historian (twice.heardBy .historian)) := by
  intro opened once twice
  have hprompt : RunSetup.steady.registry.Prompt fun _ _ =>
      .responded { worker := .historian, narrative := some "as ever" } := by
    intro worker hworker heard briefing
    obtain rfl := List.mem_singleton.mp hworker
    rfl
  have hopened : Played {} {} RunSetup.steady.registry opened [] := .opened
  have honce := hopened.play_of_ready hprompt
    (show Task.Ready [] [Task.steady] by simp [Task.Ready, Task.steady]) { text := "look" }
    .dialogue { id := ⟨7⟩, turn := 1 }
  have htwice := honce.play_of_ready hprompt
    (show Task.Ready [] [Task.steady, Task.echo] by simp [Task.Ready, Task.steady, Task.echo])
    { text := "look" } .dialogue { id := ⟨7⟩, turn := 1 }
  have hplayed : ∃ results, Played {} {} RunSetup.steady.registry twice results ∧
      results.map (·.error) = [none, none, none] ∧
      TaskResult.totalCalls RunSetup.steady.registry results = 3 := ⟨_, htwice, rfl, rfl⟩
  clear_value twice
  obtain ⟨results, hresults, herrors, hcalls⟩ := hplayed
  have haccounted := calls_accounted hresults (fun result hresult limit herror => by
    have hin := List.mem_map_of_mem (f := fun result : TaskResult => result.error) hresult
    rw [herrors, herror] at hin
    simp at hin)
  rw [hcalls] at haccounted
  exact ⟨haccounted.1, haccounted.2.1, haccounted.2.2.1 .historian⟩

end Engine

end StoryDirector
