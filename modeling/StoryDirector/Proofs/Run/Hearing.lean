import StoryDirector.Proofs.Run.Feedback
import StoryDirector.Proofs.Run.Telling
import StoryDirector.Proofs.Run.Transparency
import Mathlib.Logic.Relation
/-!
# StoryDirector.Proofs.Run.Hearing

What a worker is told when it is called, in the course of a run. **It is told the task, the action
and its kind, a view of the session as the results so far left it, and all their responses; workers
that are called one after another are also told what those before them in the same task said**
(`Run.workers_told`).

A run attends to its attempts one after another (`Run.attendMany`), and what is heard is heard at
one of these times. What was said by then stays the beginning of what the results say
(`Run.Upholds`), whatever becomes of the run (`Run.Leads`).
-/

namespace StoryDirector

namespace Run

variable {setup : RunSetup} {run : Run} {attempt : Attempt} {engine : Engine} {tasks : List Task}
  {action : PlayerAction} {kind : ActionKind} {session : Session}

/-- What holds of a run of some tasks, cancelled or not, whatever engine it is on. -/
structure Briefed (setup : RunSetup) (tasks : List Task) (action : PlayerAction)
    (kind : ActionKind) (session : Session) (run : Run) : Prop where
  /-- It answers the action -/
  action : run.action = action
  /-- of that kind, -/
  kind : run.kind = kind
  /-- its session is as the results so far left it, -/
  fed : run.Fed setup.cascade session
  /-- the task that is attempted is the next one without a result, -/
  follows : ∀ attempt todo, run.stage = .busy attempt todo →
    run.ledger.results.map (·.task) ++ attempt.task :: todo = tasks
  /-- and what its workers were told is what the run tells them. -/
  informed : ∀ attempt todo, run.stage = .busy attempt todo → attempt.Informed setup run

/-- What is attempted next is the next task, which waits. -/
theorem eq_of_stageOf {now : Instant} {todo others : List Task}
    (h : stageOf now todo = .busy attempt others) :
    ∃ task, attempt = .waiting task now ∧ todo = task :: others := by
  cases todo with
  | nil => cases h
  | cons task rest =>
      obtain ⟨rfl, rfl⟩ := RunStage.busy.inj h
      exact ⟨task, rfl, rfl⟩

theorem briefed_begin (setup : RunSetup) (tasks : List Task) (action : PlayerAction)
    (kind : ActionKind) (session : Session) (now : Instant) :
    Briefed setup tasks action kind session (begin tasks action kind session now) where
  action := rfl
  kind := rfl
  fed := fed_begin _ _ _ _ _ _
  follows := by
    intro attempt todo hstage
    obtain ⟨task, rfl, rfl⟩ := eq_of_stageOf hstage
    rfl
  informed := by
    intro attempt todo hstage
    obtain ⟨task, rfl, -⟩ := eq_of_stageOf hstage
    trivial

/-- The task that is attempted stands behind those that have a result. -/
theorem Briefed.getElem? (h : Briefed setup tasks action kind session run) {todo : List Task}
    (hstage : run.stage = .busy attempt todo) :
    tasks[run.ledger.results.length]? = some attempt.task := by
  rw [← h.follows attempt todo hstage, List.getElem?_append_right (by simp)]
  simp

/-- What a worker of the run is told, without what others say in the same task. -/
theorem Briefed.briefing (h : Briefed setup tasks action kind session run) (task : Task) :
    run.briefing setup task =
      { task := task.name
        action
        kind
        view := SceneView.of setup.view
          (setup.cascade.fed (run.ledger.results.map (·.responses)) session)
        prior := responsesOf run.ledger.results } := by
  simp [Run.briefing, h.action, h.kind, h.fed.session, Ledger.responses]

/-- What comes of a look at the attempt of the run. -/
theorem Briefed.attended {todo : List Task} {seen : Engine × Standing Attempt}
    (h : Briefed setup tasks action kind session { run with stage := .busy attempt todo })
    (hlook : run.lookAttempt setup attempt engine = seen) :
    Attended setup run attempt engine seen := by
  have hinformed : attempt.Informed setup run := h.informed attempt todo rfl
  rw [← hlook]
  exact attended_lookAttempt hinformed engine

theorem hearings_close (run : Run) (setup : RunSetup) (result : TaskResult) (engine : Engine) :
    (run.close setup result engine).1.hearings = engine.hearings := by
  unfold close
  cases result.error <;> rfl

theorem keeps_briefed (setup : RunSetup) (tasks : List Task) (action : PlayerAction)
    (kind : ActionKind) (session : Session) :
    Keeps setup fun _ run => Briefed setup tasks action kind session run where
  going := by
    intro engine after run attempt next todo h hlook
    obtain ⟨htask, hinformed, -⟩ := (h.attended hlook).going next rfl
    refine ⟨h.action, h.kind, ⟨h.fed.session, h.fed.named⟩, fun other others hstage => ?_,
      fun other others hstage => ?_⟩
    · obtain ⟨rfl, rfl⟩ := RunStage.busy.inj hstage
      rw [htask]
      exact h.follows attempt todo rfl
    · obtain ⟨rfl, rfl⟩ := RunStage.busy.inj hstage
      exact hinformed
  ended := by
    intro engine after run attempt result todo h hlook
    obtain ⟨htask, -⟩ := (h.attended hlook).ended result rfl
    have hfollows := h.follows attempt todo rfl
    have hrun : run.Fed setup.cascade session := ⟨h.fed.session, h.fed.named⟩
    have hfed := fed_record hrun result
    refine ⟨h.action, h.kind, ⟨hfed.session, hfed.named⟩, fun other others hstage => ?_,
      fun other others hstage => ?_⟩
    · obtain ⟨task, rfl, rfl⟩ := eq_of_stageOf hstage
      show (run.ledger.results ++ [result]).map (·.task) ++ task :: others = tasks
      simpa [htask] using hfollows
    · obtain ⟨task, rfl, -⟩ := eq_of_stageOf hstage
      trivial
  stopped := fun h => ⟨h.action, h.kind, ⟨h.fed.session, h.fed.named⟩,
    (fun _ _ hstage => by cases hstage), fun _ _ hstage => by cases hstage⟩

/-! ### What is heard in the course of a run -/

/-- The calls of the task at work as attending to the run leaves them. -/
def calls (run : Run) (setup : RunSetup) (engine : Engine) : List Call :=
  match run.stage with
  | .finished | .cancelled => []
  | .busy attempt _ => run.called setup attempt engine

/-- The run attends to its attempts several times. -/
def attendMany (setup : RunSetup) : (count : Nat) → Engine → Run → Engine × Run
  | 0, engine, run => (engine, run)
  | count + 1, engine, run =>
    attendMany setup count (run.attend setup engine).1 (run.attend setup engine).2

/-- One run is what looks make of another, on whatever engines, cancelled or not. -/
def Leads (setup : RunSetup) : Run → Run → Prop :=
  Relation.ReflTransGen fun run next =>
    ∃ cancelled engine, next = (run.look setup cancelled engine).2

section Keeping

variable {P : Run → Prop} (hP : Keeps setup fun _ run => P run)

include hP

theorem keeps_attend (engine : Engine) (hrun : P run) : P (run.attend setup engine).2 :=
  @attend_induction setup (fun _ run => P run) hP engine run hrun

theorem keeps_attendMany (count : Nat) (engine : Engine) (hrun : P run) :
    P (attendMany setup count engine run).2 := by
  induction count generalizing engine run with
  | zero => exact hrun
  | succ count ih => exact ih _ (keeps_attend hP engine hrun)

theorem Leads.keeps {last : Run} (h : Leads setup run last) (hrun : P run) : P last := by
  induction h with
  | refl => exact hrun
  | tail _ hlook ih =>
      obtain ⟨cancelled, engine, rfl⟩ := hlook
      exact @look_induction setup (fun _ run => P run) hP cancelled engine _ ih

end Keeping

theorem attendMany_add (setup : RunSetup) (first second : Nat) (engine : Engine) (run : Run) :
    attendMany setup (first + second) engine run =
      attendMany setup second (attendMany setup first engine run).1
        (attendMany setup first engine run).2 := by
  induction first generalizing engine run with
  | zero => simp [attendMany]
  | succ first ih => rw [Nat.succ_add, attendMany, ih, attendMany]

/-- To look is to attend some times. -/
theorem exists_attendMany (run : Run) (setup : RunSetup) (engine : Engine) :
    ∃ count, attendMany setup count engine run = run.look setup false engine := by
  cases hstage : run.stage with
  | finished => exact ⟨0, by simp [attendMany, look, hstage]⟩
  | cancelled => exact ⟨0, by simp [attendMany, look, hstage]⟩
  | busy attempt todo =>
      induction todo generalizing attempt engine run with
      | nil =>
          refine ⟨1, ?_⟩
          simp only [attendMany, attend, look, hstage, Bool.false_eq_true, if_false, pursue]
          cases run.lookAttempt setup attempt engine with
          | mk after standing => cases standing <;> rfl
      | cons task rest ih =>
          cases hlook : run.lookAttempt setup attempt engine with
          | mk after standing =>
              rcases standing with next | result
              · refine ⟨1, ?_⟩
                simp [attendMany, attend, look, hstage, pursue, hlook]
              · -- The attempt is over, so the run looks on with the next task.
                rw [← look_attend hstage hlook]
                obtain ⟨count, hcount⟩ := ih (run.attend setup engine).2 (run.attend setup engine).1
                  (.waiting task (run.close setup result after).1.now)
                  (by simp [attend, hstage, hlook, stageOf])
                exact ⟨count + 1, hcount⟩

/-- No one but who is called hears anything while the run attends to an attempt. -/
theorem Briefed.attend_hears (h : Briefed setup tasks action kind session run) (engine : Engine) :
    engine.Hears ((run.calls setup engine).map Call.hearing) (run.attend setup engine).1 := by
  unfold attend calls
  cases hstage : run.stage with
  | finished => exact Engine.Hears.of_eq rfl
  | cancelled => exact Engine.Hears.of_eq rfl
  | busy attempt todo =>
      have hheard := (attended_lookAttempt (h.informed attempt todo hstage) engine).heard
      dsimp only
      cases hlook : run.lookAttempt setup attempt engine with
      | mk after standing =>
          rw [hlook] at hheard
          rcases standing with next | result
          · exact hheard
          · obtain ⟨new, hnew, hin⟩ := hheard
            exact ⟨new, (hearings_close run setup result after).trans hnew, hin⟩

/-- Whatever is heard while the run attends some times is heard at one of them. -/
theorem Briefed.attendMany_hears (h : Briefed setup tasks action kind session run)
    (count : Nat) (engine : Engine) :
    ∃ new, (attendMany setup count engine run).1.hearings = engine.hearings ++ new ∧
      ∀ hearing ∈ new, ∃ n < count, hearing ∈
        ((attendMany setup n engine run).2.calls setup (attendMany setup n engine run).1).map
          Call.hearing := by
  induction count generalizing engine run with
  | zero => exact ⟨[], by simp [attendMany], by simp⟩
  | succ count ih =>
      obtain ⟨first, hfirst, hin⟩ := h.attend_hears engine
      obtain ⟨others, hothers, hinOthers⟩ :=
        ih (keeps_attend (keeps_briefed setup tasks action kind session) engine h)
          (run.attend setup engine).1
      refine ⟨first ++ others, by simp [attendMany, hothers, hfirst], fun hearing hhearing => ?_⟩
      rcases List.mem_append.mp hhearing with hnow | hlater
      · exact ⟨0, Nat.succ_pos _, hin hnow⟩
      · obtain ⟨n, hn, hcalled⟩ := hinOthers hearing hlater
        exact ⟨n + 1, Nat.succ_lt_succ hn, hcalled⟩

theorem hearings_look_cancelled (run : Run) (setup : RunSetup) (engine : Engine) :
    (run.look setup true engine).1.hearings = engine.hearings := by
  unfold look
  cases run.stage with
  | finished => rfl
  | cancelled => rfl
  | busy attempt todo =>
      cases attempt with
      | waiting task since => rfl
      | executing execution => exact Call.hearings_abandonAll _ _

/-! ### What was told stays true -/

/-- Some calls of the task behind some results had their responses, and so they have. -/
structure Upholds (limits : RunSettings) (earlier : List TaskResult) (answered : List Call)
    (same : List Response) (run : Run) : Prop where
  /-- The results are still the first ones. -/
  grows : earlier <+: run.ledger.results
  /-- While the task has no result, they are still the first of its calls, -/
  stay : run.ledger.results = earlier → ∀ attempt todo, run.stage = .busy attempt todo →
    ∃ execution, attempt = .executing execution ∧ answered <+: execution.calls
  /-- and once it has one and was in time, the result says first what they said. -/
  said : ∀ result, run.ledger.results[earlier.length]? = some result →
    result.error = some (.deadlineExceeded limits.taskDeadline) ∨ same <+: result.responses

variable {earlier : List TaskResult} {answered : List Call} {same : List Response}

/-- The task has its result. -/
theorem upholds_close {limits : RunSettings} {result : TaskResult} (run : Run) (setup : RunSetup)
    (stage : RunStage) (h : result.error = some (.deadlineExceeded limits.taskDeadline) ∨
      same <+: result.responses) :
    Upholds limits run.ledger.results answered same
      { (run.close setup result engine).2 with stage } where
  grows := List.prefix_append _ _
  stay := by
    intro hresults
    have hlength := congrArg List.length hresults
    simp [close] at hlength
  said := by
    intro other hother
    simp only [close, results_record, List.getElem?_concat_length] at hother
    exact Option.some.inj hother ▸ h

theorem keeps_upholds (setup : RunSetup) (tasks : List Task) (action : PlayerAction)
    (kind : ActionKind) (session : Session) (earlier : List TaskResult)
    (hsame : Call.responses? answered = some same) :
    Keeps setup fun _ run => Briefed setup tasks action kind session run ∧
      Upholds setup.limits earlier answered same run where
  going := by
    intro engine after run attempt next todo h hlook
    obtain ⟨hbriefed, hupholds⟩ := h
    refine ⟨(keeps_briefed setup tasks action kind session).going hbriefed hlook,
      hupholds.grows, fun hresults other others hstage => ?_, hupholds.said⟩
    obtain ⟨rfl, rfl⟩ := RunStage.busy.inj hstage
    obtain ⟨execution, rfl, hanswered⟩ := hupholds.stay hresults attempt todo rfl
    have hinformed := hbriefed.informed _ todo rfl
    obtain ⟨-, -, ⟨-, rfl⟩ | ⟨further, rfl, hcalls⟩⟩ := (hbriefed.attended hlook).going next rfl
    · exact ⟨execution, rfl, hanswered⟩
    · refine ⟨further, rfl, ?_⟩
      rw [hcalls]
      exact called_answered hinformed.1 hanswered hsame _ _ _
  ended := by
    intro engine after run attempt result todo h hlook
    obtain ⟨hbriefed, hupholds⟩ := h
    refine ⟨(keeps_briefed setup tasks action kind session).ended hbriefed hlook,
      ?_⟩
    by_cases hresults : run.ledger.results = earlier
    · -- It is the task whose calls had their responses.
      obtain ⟨execution, rfl, hanswered⟩ := hupholds.stay hresults attempt todo rfl
      have hinformed := hbriefed.informed _ todo rfl
      obtain ⟨-, -, hended⟩ := (hbriefed.attended hlook).ended result rfl
      subst hresults
      exact upholds_close run setup _
        (hended answered same (called_answered hinformed.1 hanswered hsame _ _ _) hsame)
    · have hgrows : earlier <+: run.ledger.results := hupholds.grows
      have hlonger : earlier.length < run.ledger.results.length :=
        Nat.lt_of_le_of_ne hgrows.length_le fun heq => hresults (hgrows.eq_of_length heq).symm
      refine ⟨hgrows.trans (List.prefix_append _ _), fun hsameResults => ?_,
        fun other hother => ?_⟩
      · have hlength := congrArg List.length hsameResults
        simp [close] at hlength
        omega
      · simp only [close, results_record, List.getElem?_append_left hlonger] at hother
        exact hupholds.said other hother
  stopped := by
    intro engine run attempt todo h
    refine ⟨@Keeps.stopped _ _ (keeps_briefed setup tasks action kind session) engine _ _ _ h.1,
      h.2.grows, (fun _ _ _ hstage => by cases hstage), h.2.said⟩

/-- After the run attended to a task, what its calls had been told stays true. -/
theorem Briefed.upholds_attend (h : Briefed setup tasks action kind session run)
    (hcalls : run.calls setup engine ≠ []) (hanswered : answered <+: run.calls setup engine)
    (hsame : Call.responses? answered = some same) :
    Upholds setup.limits run.ledger.results answered same (run.attend setup engine).2 := by
  unfold calls at hcalls hanswered
  cases hstage : run.stage with
  | finished => simp [hstage] at hcalls
  | cancelled => simp [hstage] at hcalls
  | busy attempt todo =>
      simp only [hstage] at hcalls hanswered
      have hattended := attended_lookAttempt (h.informed attempt todo hstage) engine
      simp only [attend, hstage]
      cases hlook : run.lookAttempt setup attempt engine with
      | mk after standing =>
          rw [hlook] at hattended
          rcases standing with next | result
          · obtain ⟨-, -, ⟨hnone, -⟩ | ⟨execution, rfl, hcalled⟩⟩ := hattended.going next rfl
            · exact absurd hnone hcalls
            · refine ⟨List.prefix_rfl, fun _ other others hnext => ?_, fun result hresult => ?_⟩
              · obtain ⟨rfl, rfl⟩ := RunStage.busy.inj hnext
                exact ⟨execution, rfl, hcalled ▸ hanswered⟩
              · simp at hresult
          · exact upholds_close run setup _
              ((hattended.ended result rfl).2.2 answered same hanswered hsame)

/-- What is heard at a moment of a run of some tasks, as it is in the end: it is heard by the worker
at an index of a task, and `same` is what that worker is told of others in the same task. -/
structure Tells (setup : RunSetup) (tasks : List Task) (action : PlayerAction) (kind : ActionKind)
    (session : Session) (moment : Engine × Run) (last : Run) (task : Task) (index : Nat)
    (same : List Response) (hearing : Hearing) : Prop where
  /-- The task is the next one without a result. -/
  next : tasks[moment.2.ledger.results.length]? = some task
  /-- The results so far are the first ones in the end. -/
  results : moment.2.ledger.results <+: last.ledger.results
  /-- The worker is one of the task. -/
  worker : task.workers[index]? = some hearing.worker
  /-- It is told the task, the action and its kind, the view of the session as the results so far
  left it, their responses and, after them, what others said in the same task. -/
  briefing : hearing.briefing =
    { task := task.name
      action
      kind
      view := SceneView.of setup.view
        (setup.cascade.fed (moment.2.ledger.results.map (·.responses)) session)
      prior := responsesOf moment.2.ledger.results ++ same }
  /-- Workers that are called at once are told nothing of each other. -/
  atOnce : task.mode.isConcurrent = true → same = []
  /-- Others are told the responses of the workers before them, all of which have answered. -/
  inTurn : task.mode.isConcurrent = false →
    ((moment.2.calls setup moment.1).take index).map (·.worker) = task.workers.take index ∧
      Call.responses? ((moment.2.calls setup moment.1).take index) = some same
  /-- If the task is in time, these are the first responses of its result. -/
  said : task.mode.isConcurrent = false →
    ∀ result, last.ledger.results[moment.2.ledger.results.length]? = some result →
      result.error = some (.deadlineExceeded setup.limits.taskDeadline) ∨
        result.responses.take index = same

/-- Who is called is told what the run tells it, and that stays true whatever the run leads to. -/
theorem Briefed.exists_tells (h : Briefed setup tasks action kind session run) {hearing : Hearing}
    (hhearing : hearing ∈ (run.calls setup engine).map Call.hearing) :
    ∃ task index answered same, Call.responses? answered = some same ∧
      Upholds setup.limits run.ledger.results answered same (run.attend setup engine).2 ∧
      ∀ last, Upholds setup.limits run.ledger.results answered same last →
        Tells setup tasks action kind session (engine, run) last task index same hearing := by
  obtain ⟨call, hcall, rfl⟩ := List.mem_map.mp hhearing
  obtain ⟨index, hindex⟩ := List.mem_iff_getElem?.mp hcall
  have hcalls : run.calls setup engine ≠ [] := List.ne_nil_of_mem hcall
  cases hstage : run.stage with
  | finished => simp [calls, hstage] at hcall
  | cancelled => simp [calls, hstage] at hcall
  | busy attempt todo =>
      have htask := h.getElem? hstage
      have htold := told_called (h.informed attempt todo hstage) engine
      have hcalled : run.called setup attempt engine = run.calls setup engine := by
        simp [calls, hstage]
      rw [hcalled] at htold
      have hlt : index < (run.calls setup engine).length := (List.getElem?_eq_some_iff.mp hindex).1
      have hworker : attempt.task.workers[index]? = some call.worker := by
        obtain ⟨rest, hrest⟩ := htold.workers
        rw [← hrest, List.getElem?_append_left (by simpa using hlt), List.getElem?_map, hindex]
        rfl
      have hbefore : ((run.calls setup engine).take index).map (·.worker) =
          attempt.task.workers.take index := by
        obtain ⟨rest, hrest⟩ := htold.workers
        rw [← hrest, List.take_append_of_le_length (by simpa using Nat.le_of_lt hlt), List.map_take]
      cases hmode : attempt.task.mode.isConcurrent with
      | true =>
          refine ⟨attempt.task, index, [], [], rfl,
            h.upholds_attend hcalls List.nil_prefix rfl, fun last hlast => ?_⟩
          refine ⟨htask, hlast.grows, hworker, ?_, fun _ => rfl, fun hother => ?_, fun hother => ?_⟩
          · rw [List.append_nil, ← h.briefing]
            exact htold.atOnce hmode call hcall
          · exact Bool.noConfusion (hmode.symm.trans hother)
          · exact Bool.noConfusion (hmode.symm.trans hother)
      | false =>
          obtain ⟨same, hsame, hbriefing⟩ := htold.inTurn hmode index call hindex
          refine ⟨attempt.task, index, _, same, hsame,
            h.upholds_attend hcalls (List.take_prefix _ _) hsame, fun last hlast => ?_⟩
          refine ⟨htask, hlast.grows, hworker, ?_, fun hother => ?_, fun _ => ⟨hbefore, hsame⟩,
            fun _ result hresult => (hlast.said result hresult).imp_right fun hsaid => ?_⟩
          · show call.briefing = _
            rw [hbriefing, h.briefing]
          · exact Bool.noConfusion (hother.symm.trans hmode)
          · have hlength : same.length = index := by
              rw [Call.length_of_responses? hsame, List.length_take_of_le (Nat.le_of_lt hlt)]
            rw [← hlength]
            exact (List.prefix_iff_eq_take.mp hsaid).symm

/-- The same of whatever the run leads to after it attended some times. -/
theorem Briefed.tells_of_leads (h : Briefed setup tasks action kind session run) {hearing : Hearing}
    (hhearing : hearing ∈ (run.calls setup engine).map Call.hearing) (left : Nat) {last : Run}
    (hlast : Leads setup (attendMany setup (left + 1) engine run).2 last) :
    ∃ task index same,
      Tells setup tasks action kind session (engine, run) last task index same hearing := by
  obtain ⟨task, index, answered, same, hsame, hupholds, htells⟩ := h.exists_tells hhearing
  have hkeeps := keeps_upholds setup tasks action kind session run.ledger.results hsame
  have hnext := keeps_attend (keeps_briefed setup tasks action kind session) engine h
  have hafter := keeps_attendMany hkeeps left (run.attend setup engine).1 ⟨hnext, hupholds⟩
  exact ⟨task, index, same, htells last (Leads.keeps hkeeps hlast hafter).2⟩

/-- **Whatever a worker hears is what the run has to tell it.** A run is looked at, on whatever
engine, and cancelled or not: all that is heard is heard at one of the times at which the run
attends to its tasks, by a worker of the next task, and it is told what `Tells` says, in the light
of whatever becomes of the run. -/
theorem workers_told {now : Instant} {last : Run}
    (hrun : Leads setup (begin tasks action kind session now) run) (cancelled : Bool)
    (engine : Engine) (hlast : Leads setup (run.look setup cancelled engine).2 last) :
    ∃ new, (run.look setup cancelled engine).1.hearings = engine.hearings ++ new ∧
      ∀ hearing ∈ new, ∃ n count task index same, n < count ∧
        attendMany setup count engine run = run.look setup cancelled engine ∧
        Tells setup tasks action kind session (attendMany setup n engine run) last task index same
          hearing := by
  have hbriefed : Briefed setup tasks action kind session run :=
    Leads.keeps (keeps_briefed setup tasks action kind session) hrun
      (briefed_begin setup tasks action kind session now)
  cases cancelled with
  | true => exact ⟨[], by simp [hearings_look_cancelled], by simp⟩
  | false =>
      obtain ⟨count, hcount⟩ := exists_attendMany run setup engine
      obtain ⟨new, hnew, hheard⟩ := hbriefed.attendMany_hears count engine
      refine ⟨new, by rw [← hcount, hnew], fun hearing hhearing => ?_⟩
      obtain ⟨n, hn, hcalled⟩ := hheard hearing hhearing
      -- From the moment at which it is heard, the look goes on for the other times.
      obtain ⟨left, rfl⟩ : ∃ left, count = n + (left + 1) := ⟨count - n - 1, by omega⟩
      have hmoment : Briefed setup tasks action kind session (attendMany setup n engine run).2 :=
        keeps_attendMany (keeps_briefed setup tasks action kind session) n engine hbriefed
      rw [← hcount, attendMany_add] at hlast
      obtain ⟨task, index, same, htells⟩ := hmoment.tells_of_leads hcalled left hlast
      exact ⟨n, n + (left + 1), task, index, same, hn, hcount, htells⟩

end Run

/-- A task for a worker that is not there and, after it, one that is. -/
def Task.echo : Task where
  id := "recall"
  name := "recall"
  workers := [.npcManager, .historian]
  mode := .sequential

/-- The one that is there is told that the other is not. -/
theorem Run.workers_told_echo :
    let start := Run.begin [Task.echo] { text := "look" } .dialogue { id := ⟨7⟩, turn := 1 } 0
    let seen := start.look RunSetup.steady false (Engine.create {} {})
    ∃ hearing, seen.1.hearings = [hearing] ∧
      hearing.briefing.prior = [Response.failure .npcManager (.notRegistered .npcManager)] ∧
      ∃ n task index same, Run.Tells RunSetup.steady [Task.echo] { text := "look" } .dialogue
        { id := ⟨7⟩, turn := 1 } (Run.attendMany RunSetup.steady n (Engine.create {} {}) start)
          seen.2
        task index same hearing := by
  intro start seen
  have hstart : Run.Leads RunSetup.steady start start := Relation.ReflTransGen.refl
  obtain ⟨new, hnew, htold⟩ :=
    Run.workers_told hstart false (Engine.create {} {}) Relation.ReflTransGen.refl
  have hheard : seen.1.hearings.map (·.briefing.prior) =
      [[Response.failure .npcManager (.notRegistered .npcManager)]] := rfl
  obtain ⟨hearing, others, hhearings, hprior, hothers⟩ := List.map_eq_cons_iff.mp hheard
  obtain rfl := List.map_eq_nil_iff.mp hothers
  have hin : hearing ∈ new := by
    have hfirst : new = [hearing] := hnew.symm.trans hhearings
    simp [hfirst]
  obtain ⟨n, -, task, index, same, -, -, htells⟩ := htold hearing hin
  exact ⟨hearing, hhearings, hprior, n, task, index, same, htells⟩

end StoryDirector
