import StoryDirector.Proofs.Run.Notices
/-!
# StoryDirector.Proofs.Run.News

What a run makes known, from its first task to its last. **The notices of a run follow its tasks**,
as `Progress.OfTasks` has it.

What a run has made known so far is what the tasks with a result brought, and the beginning of what
the task under way will bring (`Run.Narrated`). A look at a call brings a notice only if it is the
first (`Call.notices_look`), so nothing is made known twice, and whatever becomes of the run, what
is known can be continued to the end (`Run.Recounts.continues`). Each step of a run carries this on
(`Run.Recounts.going`, `Run.Recounts.ended`, `Run.Recounts.stopped`).
-/

namespace StoryDirector

/-! ### Calls -/

namespace Call

variable {setup : RunSetup} {call : Call} {engine : Engine}

/-- The notice by which the call is made known. -/
def herald (call : Call) : Notice :=
  Progress.workerCalled call.briefing.view.session call.worker call.briefing.task

/-- What a look at the call makes known. -/
def news (call : Call) : List Notice :=
  match call.stage with
  | .fresh => [call.herald]
  | .queued _ _ | .working _ _ _ | .answered _ => []

/-- The call was made. -/
def Made (call : Call) : Prop :=
  call.stage ≠ .fresh

theorem Made.news_eq (h : call.Made) : call.news = [] := by
  unfold news
  split
  · next hfresh => exact absurd hfresh h
  · rfl
  · rfl
  · rfl

theorem notices_attend (call : Call) (inquiry : Inquiry) (began : Instant) (reply : Reply)
    (engine : Engine) :
    (call.attend inquiry began reply engine).1.notices = engine.notices ∧
      (call.attend inquiry began reply engine).2.Made := by
  unfold attend
  split
  · exact ⟨rfl, fun hfresh => by cases hfresh⟩
  · exact ⟨rfl, fun hfresh => by cases hfresh⟩

theorem notices_pursue (call : Call) (worker : Worker) (inquiry : Inquiry) (engine : Engine) :
    (call.pursue worker inquiry engine).1.notices = engine.notices ∧
      (call.pursue worker inquiry engine).2.Made := by
  unfold pursue
  dsimp only
  split
  · exact ⟨rfl, fun hfresh => by cases hfresh⟩
  · exact notices_attend _ _ _ _ _
  case h_3 | h_4 | h_5 => exact ⟨rfl, fun hfresh => by cases hfresh⟩

/-- A look makes the call, if it was not made yet, and makes it known. -/
theorem notices_look (setup : RunSetup) (call : Call) (engine : Engine) :
    (call.look setup engine).1.notices = engine.notices ++ call.news ∧
      (call.look setup engine).2.Made := by
  unfold look news
  cases hstage : call.stage with
  | fresh =>
      dsimp only
      unfold begin
      dsimp only
      split
      · exact ⟨rfl, fun hfresh => by cases hfresh⟩
      · exact notices_pursue call _ _ _
  | queued worker inquiry => simpa using notices_pursue call worker inquiry engine
  | working inquiry began reply => simpa using notices_attend call inquiry began reply engine
  | answered response =>
      refine ⟨by simp, fun hfresh => ?_⟩
      rw [hstage] at hfresh
      cases hfresh

/-- Whatever is told of a call by its herald stays so. -/
theorem herald_of_hearing {call other : Call} (h : other.hearing = call.hearing) :
    other.herald = call.herald :=
  congrArg (fun heard : Hearing =>
    Progress.workerCalled heard.briefing.view.session heard.worker heard.briefing.task) h

theorem notices_lookAll (setup : RunSetup) (calls : List Call) (engine : Engine) :
    (lookAll setup calls engine).1.notices = engine.notices ++ calls.flatMap news ∧
      (lookAll setup calls engine).2.map herald = calls.map herald ∧
      ∀ call ∈ (lookAll setup calls engine).2, call.Made := by
  induction calls generalizing engine with
  | nil => simp
  | cons call rest ih =>
      obtain ⟨hnotices, hmade⟩ := notices_look setup call engine
      obtain ⟨hnoticesRest, hheralds, hmadeRest⟩ := ih (call.look setup engine).1
      have hherald := herald_of_hearing (look_hears setup call engine).1
      refine ⟨by simp [lookAll, hnoticesRest, hnotices], by simp [lookAll, hherald, hheralds], ?_⟩
      simpa [lookAll] using ⟨hmade, hmadeRest⟩

theorem notices_abandonAll (calls : List Call) (engine : Engine) :
    (abandonAll calls engine).notices = engine.notices := by
  induction calls generalizing engine with
  | nil => rfl
  | cons call rest ih =>
      have hcall : (call.abandon engine).notices = engine.notices := by
        unfold abandon
        split <;> rfl
      exact (ih _).trans hcall

end Call

/-! ### Tasks at work -/

namespace Execution

variable {setup : RunSetup} {execution : Execution} {briefing : Briefing} {engine : Engine}

/-- All calls of the task were made. -/
def Made (execution : Execution) : Prop :=
  ∀ call ∈ execution.calls, call.Made

/-- These notices, and those of the calls that are yet to be made, tell of the calls in order. -/
def Known (execution : Execution) (told : List Notice) : Prop :=
  told ++ execution.calls.flatMap Call.news = execution.calls.map Call.herald

theorem Made.known (h : execution.Made) : execution.Known (execution.calls.map Call.herald) := by
  have hnone : execution.calls.flatMap Call.news = [] :=
    List.flatMap_eq_nil_iff.mpr fun call hcall => (h call hcall).news_eq
  rw [Known, hnone, List.append_nil]

theorem known_begin (task : Task) (briefing : Briefing) (now : Instant) :
    (Execution.begin task briefing now).Known [] := by
  unfold Execution.begin Known
  split
  · rw [List.nil_append, List.flatMap_map, List.map_map]
    exact List.map_eq_flatMap.symm
  · rfl

/-- The next workers are called behind all others, and each call is made known. -/
theorem notices_callNext (setup : RunSetup) (briefing : Briefing) (calls : List Call)
    (waiting : List WorkerKind) (engine : Engine) (h : ∀ call ∈ calls, call.Made) :
    ∃ more, (callNext setup briefing calls waiting engine).2.1 = calls ++ more ∧
      (callNext setup briefing calls waiting engine).1.notices =
        engine.notices ++ more.map Call.herald ∧ ∀ call ∈ more, call.Made := by
  induction waiting generalizing calls engine with
  | nil => exact ⟨[], by simp [callNext]⟩
  | cons worker rest ih =>
      unfold callNext
      cases hresponses : Call.responses? calls with
      | none => exact ⟨[], by simp⟩
      | some responses =>
          let next : Call :=
            { worker, briefing := { briefing with prior := briefing.prior ++ responses } }
          obtain ⟨hnotices, hmade⟩ := Call.notices_look setup next engine
          have hherald : (next.look setup engine).2.herald = next.herald :=
            Call.herald_of_hearing (Call.look_hears setup next engine).1
          obtain ⟨more, hcalls, hnoticesRest, hmadeRest⟩ :=
            ih (calls ++ [(next.look setup engine).2]) (next.look setup engine).1 (by
              intro call hcall
              rcases List.mem_append.mp hcall with hold | hnew
              · exact h call hold
              · exact List.mem_singleton.mp hnew ▸ hmade)
          refine ⟨(next.look setup engine).2 :: more, ?_, ?_, ?_⟩
          · simpa using hcalls
          · dsimp only
            rw [hnoticesRest, hnotices, List.map_cons, hherald]
            simp [Call.news, next]
          · simpa using ⟨hmade, hmadeRest⟩

/-- After the first step of a look all calls were made, and all are known. -/
theorem notices_act {told : List Notice} (h : execution.Known told) (setup : RunSetup)
    (engine : Engine) :
    ∃ new, (execution.act setup engine).1.notices = engine.notices ++ new ∧
      told ++ new = (execution.act setup engine).2.calls.map Call.herald ∧
      (execution.act setup engine).2.Made := by
  obtain ⟨hnotices, hsame, hmade⟩ := Call.notices_lookAll setup execution.calls engine
  obtain ⟨more, hcalls, hnoticesNext, hmadeNext⟩ := notices_callNext setup execution.briefing _
    execution.waiting (Call.lookAll setup execution.calls engine).1 hmade
  refine ⟨execution.calls.flatMap Call.news ++ more.map Call.herald, ?_, ?_, ?_⟩
  · simp only [act]
    rw [hnoticesNext, hnotices, List.append_assoc]
  · simp only [act]
    rw [hcalls, List.map_append, hsame, ← List.append_assoc, h]
  · intro call hcall
    simp only [act, hcalls] at hcall
    rcases List.mem_append.mp hcall with hold | hnew
    · exact hmade call hold
    · exact hmadeNext call hnew

theorem map_herald_of_told {task : Task} {calls : List Call} (h : Told task briefing calls) :
    calls.map Call.herald = (calls.map (·.worker)).map fun worker =>
      Progress.workerCalled briefing.view.session worker briefing.task := by
  rw [List.map_map]
  refine List.map_congr_left fun call hcall => ?_
  obtain ⟨prior, hbriefing⟩ := h.exists_prior hcall
  simp [Call.herald, hbriefing]

end Execution

/-! ### Attempts -/

namespace Attempt

/-- All calls of the attempt were made. -/
def Made : Attempt → Prop
  | .waiting _ _ => True
  | .executing execution => execution.Made

/-- What a run has made known of the task that it attempts. -/
def news (run : Run) : Attempt → List Notice
  | .waiting _ _ => []
  | .executing execution =>
    Progress.begun run.session.id run.ledger.results.length run.total execution.task
      (execution.calls.map (·.worker))

end Attempt

namespace Run

variable {setup : RunSetup} {run : Run} {attempt : Attempt} {engine : Engine}

/-- What a look at an attempt makes known. -/
structure Announced (run : Run) (attempt : Attempt) (engine : Engine)
    (seen : Engine × Standing Attempt) (new : List Notice) : Prop where
  /-- These notices are new. -/
  notices : seen.1.notices = engine.notices ++ new
  /-- If it goes on, they are what is known of it now, -/
  going : ∀ next, seen.2 = .going next →
    next.Made ∧ next.news run = attempt.news run ++ new
  /-- and if it is over, what is known of it tells of all that led to the result. -/
  ended : ∀ result, seen.2 = .over result →
    Progress.Opened run.session.id run.ledger.results.length run.total result
      (attempt.news run ++ new)

/-- What a look at a task at work makes known, when so much of its calls is known. -/
theorem announced_execution {execution : Execution} {told : List Notice}
    (hinformed : (Attempt.executing execution).Informed setup run) (hknown : execution.Known told)
    (engine : Engine) :
    ∃ new called,
      (run.lookAttempt setup (.executing execution) engine).1.notices = engine.notices ++ new ∧
      told ++ new = (called.map fun worker =>
        Progress.workerCalled run.session.id worker execution.task.name) ∧
      called <+: execution.task.workers ∧
      (∀ next, (run.lookAttempt setup (.executing execution) engine).2 = .going next →
        next.Made ∧ next.news run = Progress.begun run.session.id run.ledger.results.length
          run.total execution.task called) ∧
      ∀ result, (run.lookAttempt setup (.executing execution) engine).2 = .over result →
        result.task = execution.task ∧ ¬ result.WaitedInVain ∧
          (called = execution.task.workers ∨
            ∃ limit, result.error = some (.deadlineExceeded limit)) := by
  obtain ⟨hexecution, hbriefing⟩ := hinformed
  obtain ⟨new, hnotices, htold, hmade⟩ := Execution.notices_act hknown setup engine
  obtain ⟨hacted, -⟩ := Execution.informed_act hexecution setup engine
  have htask : (execution.act setup engine).2.task = execution.task := rfl
  have hsame : (execution.act setup engine).2.briefing = run.briefing setup execution.task :=
    hbriefing
  have hheralds : (execution.act setup engine).2.calls.map Call.herald =
      ((execution.act setup engine).2.calls.map (·.worker)).map fun worker =>
        Progress.workerCalled run.session.id worker execution.task.name := by
    rw [Execution.map_herald_of_told hacted.told, hsame]
    rfl
  rw [lookAttempt]
  rcases Execution.look_of_act execution setup engine with
    ⟨result, hover, hresult, hresponses, herror⟩ |
    ⟨result, hover, hresult, -, herror, -⟩ | hgoes
  · rw [hover]
    refine ⟨new, _, hnotices, htold.trans hheralds, hacted.told.workers,
      (fun _ hnext => by cases hnext), fun other hother => ?_⟩
    obtain rfl := Standing.over.inj hother
    refine ⟨hresult, ?_, Or.inl ?_⟩
    · intro hvain
      obtain ⟨missing, limit, hlimit⟩ := hvain
      exact Execution.verdict_ne_dependencyTimeout _ _ _ _ (herror.symm.trans hlimit)
    · -- All have answered, so no one is yet to be called.
      have hworkers := hacted.workers
      rwa [(Execution.responses?_eq_some.mp hresponses).1, List.append_nil] at hworkers
  · rw [hover]
    refine ⟨new, _, (Call.notices_abandonAll _ _).trans hnotices, htold.trans hheralds,
      hacted.told.workers, (fun _ hnext => by cases hnext), fun other hother => ?_⟩
    obtain rfl := Standing.over.inj hother
    refine ⟨hresult, fun hvain => ?_, Or.inr ⟨_, herror⟩⟩
    obtain ⟨missing, limit, hlimit⟩ := hvain
    rw [herror] at hlimit
    cases hlimit
  · rw [hgoes]
    refine ⟨new, _, hnotices, htold.trans hheralds, hacted.told.workers, fun next hnext => ?_,
      (fun _ hother => by cases hother)⟩
    obtain rfl := Standing.going.inj hnext
    exact ⟨hmade, rfl⟩

theorem exists_announced_executing {execution : Execution}
    (hinformed : (Attempt.executing execution).Informed setup run) (hmade : execution.Made)
    (engine : Engine) :
    ∃ new, Announced run (.executing execution) engine
      (run.lookAttempt setup (.executing execution) engine) new := by
  obtain ⟨new, called, hnotices, htold, hcalled, hgoing, hended⟩ :=
    announced_execution hinformed (Execution.Made.known hmade) engine
  have hheralds : execution.calls.map Call.herald =
      (execution.calls.map (·.worker)).map fun worker =>
        Progress.workerCalled run.session.id worker execution.task.name := by
    rw [Execution.map_herald_of_told hinformed.1.told, hinformed.2]
    rfl
  have hnews : (Attempt.executing execution).news run ++ new =
      Progress.begun run.session.id run.ledger.results.length run.total execution.task called := by
    simp only [Attempt.news, Progress.begun, List.cons_append, ← hheralds, htold]
  refine ⟨new, hnotices, fun next hnext => ?_, fun result hresult => ?_⟩
  · obtain ⟨hnextMade, hnextNews⟩ := hgoing next hnext
    exact ⟨hnextMade, hnextNews.trans hnews.symm⟩
  · obtain ⟨htask, hserved, hall⟩ := hended result hresult
    rw [hnews, ← htask]
    exact Progress.opened_begun hserved (htask ▸ hcalled) (htask ▸ hall)

/-- A task that begins is made known before its calls are. -/
theorem exists_announced_begins (setup : RunSetup) (run : Run) (task : Task) (since : Instant)
    (engine : Engine) :
    let start := Progress.taskStarted run.session.id task run.ledger.results.length run.total
    ∃ new, Announced run (.waiting task since) engine
      (run.lookAttempt setup
        (.executing (Execution.begin task (run.briefing setup task) engine.now))
        (engine.notify setup start)) new := by
  intro start
  have htask : (Execution.begin task (run.briefing setup task) engine.now).task = task :=
    Execution.task_begin _ _ _
  have hinformed : (Attempt.executing (Execution.begin task (run.briefing setup task)
      engine.now)).Informed setup run := by
    refine ⟨Execution.informed_begin _ _ _, ?_⟩
    rw [htask]
    exact Execution.briefing_begin _ _ _
  obtain ⟨new, called, hnotices, htold, hcalled, hgoing, hended⟩ :=
    announced_execution hinformed (Execution.known_begin _ _ _) (engine.notify setup start)
  rw [htask] at htold hcalled hgoing hended
  have hnews : start :: new = Progress.begun run.session.id run.ledger.results.length run.total
      task called := by
    rw [Progress.begun, ← htold, List.nil_append]
  refine ⟨start :: new, ?_, fun next hnext => ?_, fun result hresult => ?_⟩
  · have hheard : (engine.notify setup start).notices = engine.notices ++ [start] := rfl
    rw [hnotices, hheard, List.append_assoc, List.singleton_append]
  · obtain ⟨hnextMade, hnextNews⟩ := hgoing next hnext
    exact ⟨hnextMade, hnextNews.trans hnews.symm⟩
  · obtain ⟨hsame, hserved, hall⟩ := hended result hresult
    show Progress.Opened _ _ _ _ (start :: new)
    rw [hnews, ← hsame]
    exact Progress.opened_begun hserved (hsame ▸ hcalled) (hsame ▸ hall)

theorem exists_announced_waiting (setup : RunSetup) (run : Run) (task : Task) (since : Instant)
    (engine : Engine) :
    ∃ new, Announced run (.waiting task since) engine
      (run.lookAttempt setup (.waiting task since) engine) new := by
  have hwaited := waited_lookAttempt setup run engine task since
  generalize run.lookAttempt setup (.waiting task since) engine = seen at hwaited ⊢
  cases hwaited with
  | waits hearly =>
      refine ⟨[], by simp, fun next hnext => ?_, (fun _ hresult => by cases hresult)⟩
      obtain rfl := Standing.going.inj hnext
      exact ⟨trivial, rfl⟩
  | vain hmissing =>
      refine ⟨[], by simp, (fun _ hnext => by cases hnext), fun result hresult => ?_⟩
      obtain rfl := Standing.over.inj hresult
      exact .skipped ⟨_, _, rfl⟩
  | idle hmet hworkers =>
      refine ⟨_, rfl, (fun _ hnext => by cases hnext), fun result hresult => ?_⟩
      obtain rfl := Standing.over.inj hresult
      have hserved : ¬ TaskResult.WaitedInVain { task, error := some .noWorkers } := by
        rintro ⟨missing, limit, hlimit⟩
        cases hlimit
      exact Progress.opened_begun hserved List.nil_prefix (Or.inl hworkers.symm)
  | begins hmet hworkers => exact exists_announced_begins setup run task since engine

/-- **A look at an attempt makes known what is new of it**, and nothing twice. -/
theorem exists_announced (hinformed : attempt.Informed setup run) (hmade : attempt.Made)
    (engine : Engine) :
    ∃ new, Announced run attempt engine (run.lookAttempt setup attempt engine) new := by
  cases attempt with
  | executing execution => exact exists_announced_executing hinformed hmade engine
  | waiting task since => exact exists_announced_waiting setup run task since engine

/-- When a task is over, its result is made known. -/
theorem notices_close (run : Run) (setup : RunSetup) (result : TaskResult) (engine : Engine) :
    ∃ new, (run.close setup result engine).1.notices = engine.notices ++ new ∧
      Progress.Settled run.session.id (run.record setup result).session.id
        run.ledger.results.length run.total result new := by
  let next := run.record setup result
  refine ⟨_, ?_, Progress.settled_settled run.session.id next.session.id run.ledger.results.length
    run.total result next.share (Progress.remaining next.ledger.results.length next.total
      (engine.timings.overall?.getD result.task.estimate))⟩
  have hdone : next.ledger.results.length = run.ledger.results.length + 1 := by simp [next]
  simp only [close, Progress.settled, ← hdone]
  cases result.error with
  | none => rfl
  | some error => simp [Engine.notify, next, record]

/-! ### Runs -/

/-- So much being known of a run of some tasks, there is a way to the end. -/
def Continues (Named : Uuid → Prop) (tasks : List Task) (run : Run) (told : List Notice) : Prop :=
  ∃ results rest, run.ledger.results <+: results ∧ results.map (·.task) = tasks ∧
    Progress.OfTasks Named tasks.length results (told ++ rest)

/-- What a run of some tasks has made known so far. -/
inductive Narrated (Named : Uuid → Prop) (tasks : List Task) (run : Run) :
    List Notice → Prop where
  /-- All of the tasks with a result, and some of the one that is attempted. -/
  | busy (attempt : Attempt) (todo : List Task) (earlier : List Notice)
      (hstage : run.stage = .busy attempt todo) (hmade : attempt.Made)
      (hearlier : Progress.OfTasks Named tasks.length run.ledger.results earlier) :
      Narrated Named tasks run (earlier ++ attempt.news run)
  /-- All of all tasks. -/
  | finished (news : List Notice) (hstage : run.stage = .finished)
      (htasks : run.ledger.results.map (·.task) = tasks)
      (hnews : Progress.OfTasks Named tasks.length run.ledger.results news) :
      Narrated Named tasks run news
  /-- No more than it would have on its way to the end. -/
  | stopped (news : List Notice) (hstage : run.stage = .cancelled)
      (hcontinues : run.Continues Named tasks news) : Narrated Named tasks run news

/-- What holds of a run that makes known what it does, when so much is known. -/
structure Recounts (setup : RunSetup) (Named : Uuid → Prop) (tasks : List Task)
    (action : PlayerAction) (kind : ActionKind) (session : Session) (told : List Notice)
    (run : Run) : Prop where
  /-- Its workers are told what it tells them. -/
  briefed : Briefed setup tasks action kind session run
  /-- It knows how many tasks there are, -/
  total : run.total = tasks.length
  /-- and for which session. -/
  named : Named run.session.id
  /-- What is known is what it did. -/
  narrated : run.Narrated Named tasks told

variable {Named : Uuid → Prop} {tasks : List Task} {action : PlayerAction} {kind : ActionKind}
  {session : Session} {told : List Notice}

theorem recounts_begin (setup : RunSetup) (hnamed : Named session.id) (tasks : List Task)
    (action : PlayerAction) (kind : ActionKind) (now : Instant) :
    Recounts setup Named tasks action kind session [] (begin tasks action kind session now) where
  briefed := briefed_begin setup tasks action kind session now
  total := rfl
  named := hnamed
  narrated := by
    cases tasks with
    | nil => exact .finished [] rfl rfl .nil
    | cons task rest => exact .busy (.waiting task now) rest [] rfl trivial .nil

/-- A task under way can end, whatever is known of it, and the others can wait in vain. -/
theorem continues_of_busy {todo : List Task} {earlier : List Notice}
    (hbriefed : Briefed setup tasks action kind session run) (htotal : run.total = tasks.length)
    (hnamed : Named run.session.id) (hstage : run.stage = .busy attempt todo)
    (hearlier : Progress.OfTasks Named tasks.length run.ledger.results earlier) :
    run.Continues Named tasks (earlier ++ attempt.news run) := by
  obtain ⟨result, hresult, hopened⟩ : ∃ result : TaskResult, result.task = attempt.task ∧
      Progress.Opened run.session.id run.ledger.results.length run.total result
        (attempt.news run) := by
    cases attempt with
    | waiting task since =>
        exact ⟨{ task, error := some (.dependencyTimeout [] 0) }, rfl, .skipped ⟨_, _, rfl⟩⟩
    | executing execution =>
        refine ⟨{ task := execution.task, error := some (.deadlineExceeded 0) }, rfl, ?_⟩
        refine Progress.opened_begun ?_ ?_ (Or.inr ⟨_, rfl⟩)
        · intro hvain
          obtain ⟨missing, limit, hlimit⟩ := hvain
          cases hlimit
        · exact (hbriefed.informed _ todo hstage).1.told.workers
  rw [htotal] at hopened
  have hsettled := Progress.settled_settled run.session.id run.session.id
    run.ledger.results.length tasks.length result 0 0
  have hresults := hearlier.concat (.intro _ _ _ _ hnamed hnamed hopened hsettled)
  obtain ⟨others, more, hothers, hmore⟩ := hresults.exists_skipped hnamed todo
  refine ⟨run.ledger.results ++ [result] ++ others,
    Progress.settled run.session.id run.session.id run.ledger.results.length tasks.length result 0 0
      ++ more, ?_, ?_, ?_⟩
  · rw [List.append_assoc]
    exact List.prefix_append _ _
  · have hfollows := hbriefed.follows attempt todo hstage
    simpa [hothers, hresult] using hfollows
  · simpa using hmore

/-- **Whatever becomes of a run, what is known of it can be continued to the end.** -/
theorem Recounts.continues (h : Recounts setup Named tasks action kind session told run) :
    run.Continues Named tasks told := by
  cases h.narrated with
  | busy attempt todo earlier hstage hmade hearlier =>
      exact continues_of_busy h.briefed h.total h.named hstage hearlier
  | finished _ hstage htasks hnews =>
      exact ⟨run.ledger.results, [], List.prefix_rfl, htasks, by simpa using hnews⟩
  | stopped _ hstage hcontinues => exact hcontinues

/-- While a task is attempted, what is known is what the tasks before it brought and what is known
of it. -/
theorem Recounts.exists_earlier {todo : List Task}
    (h : Recounts setup Named tasks action kind session told
      { run with stage := .busy attempt todo }) :
    ∃ earlier, told = earlier ++ attempt.news run ∧ attempt.Made ∧
      Progress.OfTasks Named tasks.length run.ledger.results earlier := by
  cases h.narrated with
  | busy other others earlier hstage hmade hearlier =>
      obtain ⟨rfl, rfl⟩ := RunStage.busy.inj hstage
      exact ⟨earlier, rfl, hmade, hearlier⟩
  | finished _ hstage _ _ => cases hstage
  | stopped _ hstage _ => cases hstage

/-- Once the run has finished, what is known is what all tasks brought. -/
theorem Recounts.of_finished (h : Recounts setup Named tasks action kind session told run)
    (hstage : run.stage = .finished) :
    run.ledger.results.map (·.task) = tasks ∧
      Progress.OfTasks Named tasks.length run.ledger.results told := by
  cases h.narrated with
  | finished _ _ htasks hnews => exact ⟨htasks, hnews⟩
  | busy attempt todo earlier hbusy _ _ =>
      rw [hstage] at hbusy
      cases hbusy
  | stopped _ hcancelled _ =>
      rw [hstage] at hcancelled
      cases hcancelled

/-- Whatever is given up is given up in silence. -/
theorem notices_abandonAttempt (attempt : Attempt) (engine : Engine) :
    (abandonAttempt attempt engine).notices = engine.notices := by
  cases attempt with
  | waiting task since => rfl
  | executing execution => exact Call.notices_abandonAll _ _

/-- What is known grows as the attempt goes on, -/
theorem Recounts.going {after : Engine} {next : Attempt} {todo : List Task}
    (h : Recounts setup Named tasks action kind session told
      { run with stage := .busy attempt todo })
    (hlook : run.lookAttempt setup attempt engine = (after, .going next)) :
    ∃ new, after.notices = engine.notices ++ new ∧
      Recounts setup Named tasks action kind session (told ++ new)
        { run with stage := .busy next todo } := by
  obtain ⟨earlier, htold, hmade, hearlier⟩ := h.exists_earlier
  have hinformed : attempt.Informed setup run := h.briefed.informed attempt todo rfl
  obtain ⟨new, hnew⟩ := exists_announced hinformed hmade engine
  rw [hlook] at hnew
  obtain ⟨hnextMade, hnextNews⟩ := hnew.going next rfl
  refine ⟨new, hnew.notices,
    (keeps_briefed setup tasks action kind session).going h.briefed hlook, h.total, h.named, ?_⟩
  rw [htold, List.append_assoc, ← hnextNews]
  exact .busy next todo earlier rfl hnextMade hearlier

/-- Once a task is over and all is known of it, nothing is known yet of the next. -/
theorem narrated_next {run : Run} {todo : List Task} {news : List Notice} (now : Instant)
    (htasks : run.ledger.results.map (·.task) ++ todo = tasks)
    (hnews : Progress.OfTasks Named tasks.length run.ledger.results news) :
    Narrated Named tasks { run with stage := stageOf now todo } news := by
  cases todo with
  | nil => exact .finished news rfl (by simpa using htasks) hnews
  | cons task rest =>
      rw [← List.append_nil news]
      exact .busy (.waiting task now) rest news rfl trivial hnews

/-- when it is over, -/
theorem Recounts.ended {after : Engine} {result : TaskResult} {todo : List Task}
    (hnamed : ∀ responses session, Named session.id →
      Named (setup.cascade.integrate responses session).1.id)
    (h : Recounts setup Named tasks action kind session told
      { run with stage := .busy attempt todo })
    (hlook : run.lookAttempt setup attempt engine = (after, .over result)) :
    let closed := run.close setup result after
    ∃ new, closed.1.notices = engine.notices ++ new ∧
      Recounts setup Named tasks action kind session (told ++ new)
        { closed.2 with stage := stageOf closed.1.now todo } := by
  intro closed
  obtain ⟨earlier, htold, hmade, hearlier⟩ := h.exists_earlier
  have hinformed : attempt.Informed setup run := h.briefed.informed attempt todo rfl
  obtain ⟨new, hnew⟩ := exists_announced hinformed hmade engine
  rw [hlook] at hnew
  obtain ⟨rest, hclosed, hsettled⟩ := notices_close run setup result after
  have htotal : run.total = tasks.length := h.total
  have hafter : Named (run.record setup result).session.id :=
    hnamed result.responses run.session h.named
  have hopened := hnew.ended result rfl
  rw [htotal] at hopened hsettled
  have hresults := hearlier.concat (.intro _ _ _ _ h.named hafter hopened hsettled)
  have htasks : (run.ledger.results ++ [result]).map (·.task) ++ todo = tasks := by
    have hfollows := h.briefed.follows attempt todo rfl
    have htask := ((h.briefed.attended hlook).ended result rfl).1
    simpa [htask] using hfollows
  refine ⟨new ++ rest, ?_, (keeps_briefed setup tasks action kind session).ended h.briefed hlook,
    h.total, hafter, ?_⟩
  · rw [hclosed, hnew.notices, List.append_assoc]
  · rw [htold, List.append_assoc, ← List.append_assoc (attempt.news run)]
    exact narrated_next closed.1.now htasks hresults

/-- and not at all when it is given up. -/
theorem Recounts.stopped {todo : List Task}
    (h : Recounts setup Named tasks action kind session told
      { run with stage := .busy attempt todo }) (engine : Engine) :
    Recounts setup Named tasks action kind session told { run with stage := .cancelled } := by
  have hbriefed := @Keeps.stopped setup _ (keeps_briefed setup tasks action kind session) engine
    run attempt todo h.briefed
  exact ⟨hbriefed, h.total, h.named, .stopped _ rfl h.continues⟩

/-- **A run makes known what it does, task by task.** Whatever was known at a moment, what is sent
from then on continues it. -/
theorem keeps_recounts (setup : RunSetup)
    (hnamed : ∀ responses session, Named session.id →
      Named (setup.cascade.integrate responses session).1.id)
    (tasks : List Task) (action : PlayerAction) (kind : ActionKind) (session : Session)
    (start told : List Notice) :
    Keeps setup fun engine run => ∃ new, engine.notices = start ++ new ∧
      Recounts setup Named tasks action kind session (told ++ new) run where
  going := by
    intro engine after run attempt next todo h hlook
    obtain ⟨new, hnotices, h⟩ := h
    obtain ⟨more, hmore, hnext⟩ := h.going hlook
    rw [List.append_assoc] at hnext
    exact ⟨new ++ more, by rw [hmore, hnotices, List.append_assoc], hnext⟩
  ended := by
    intro engine after run attempt result todo h hlook
    obtain ⟨new, hnotices, h⟩ := h
    obtain ⟨more, hmore, hnext⟩ := h.ended hnamed hlook
    rw [List.append_assoc] at hnext
    exact ⟨new ++ more, by rw [hmore, hnotices, List.append_assoc], hnext⟩
  stopped := by
    intro engine run attempt todo h
    obtain ⟨new, hnotices, h⟩ := h
    exact ⟨new, (notices_abandonAttempt attempt engine).trans hnotices, h.stopped engine⟩

section Looking

variable (hnamed : ∀ responses session, Named session.id →
    Named (setup.cascade.integrate responses session).1.id)
  (h : Recounts setup Named tasks action kind session told run)

include hnamed h

theorem Recounts.look (cancelled : Bool) (engine : Engine) :
    ∃ new, (run.look setup cancelled engine).1.notices = engine.notices ++ new ∧
      Recounts setup Named tasks action kind session (told ++ new)
        (run.look setup cancelled engine).2 :=
  look_induction (keeps_recounts setup hnamed tasks action kind session engine.notices told)
    cancelled ⟨[], by simp, by simpa using h⟩

theorem Recounts.attend (engine : Engine) :
    ∃ new, (run.attend setup engine).1.notices = engine.notices ++ new ∧
      Recounts setup Named tasks action kind session (told ++ new) (run.attend setup engine).2 :=
  attend_induction (keeps_recounts setup hnamed tasks action kind session engine.notices told)
    ⟨[], by simp, by simpa using h⟩

end Looking

end Run

end StoryDirector
