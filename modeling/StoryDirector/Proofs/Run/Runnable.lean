import StoryDirector.Proofs.Plan.Story
import StoryDirector.Proofs.Run.Hearing
/-!
# StoryDirector.Proofs.Run.Runnable

Planner and run together, for the plans that are made. **Every plan can be run from its beginning to
its end, and at the end the story is told by someone who has heard it all** (`Run.plan_runnable`):
no task waits in vain or wants for workers, and the one who tells the story is told every response
of every other task.

What a plan consists of is known (`Plan.EndsWithStory`), and what becomes of tasks that can be run
as they stand is a matter of the run alone.
-/

namespace StoryDirector

namespace Run

variable {setup : RunSetup} {tasks : List Task} {action : PlayerAction} {kind : ActionKind}
  {session : Session}

/-! ### Results -/

/-- Of tasks that can be run as they stand, none waits in vain. -/
theorem not_waitedInVain {ledger : Ledger} (hready : Task.Ready [] tasks)
    (htasks : ledger.results.map (·.task) = tasks) (hlawful : ledger.Lawful) {result : TaskResult}
    (hresult : result ∈ ledger.results) : ¬ result.WaitedInVain := by
  intro hvain
  obtain ⟨before, after, hsplit⟩ := List.append_of_mem hresult
  obtain ⟨id, hid, hnone⟩ := (hlawful before result after hsplit).mp hvain
  have hplan : tasks = before.map (·.task) ++ result.task :: after.map (·.task) := by
    simp [← htasks, hsplit]
  obtain ⟨earlier, hearlier, hbears⟩ := hready.exists_before hplan hid
  obtain ⟨done, hdone, rfl⟩ := List.mem_map.mp hearlier
  exact hnone done hdone hbears

/-- So far no task wanted for workers unless it needs none. -/
def Manned (run : Run) : Prop :=
  ∀ result ∈ run.ledger.results, result.error = some .noWorkers → result.task.workers = []

/-- Where every task needs a worker, none wants for workers. -/
theorem Manned.error_ne {run : Run} (h : run.Manned)
    (htasks : ∀ task ∈ run.ledger.results.map (·.task), task.workers ≠ []) {result : TaskResult}
    (hresult : result ∈ run.ledger.results) : result.error ≠ some .noWorkers :=
  fun hidle => htasks _ (List.mem_map_of_mem hresult) (h result hresult hidle)

/-- Of what is heard from some engine on, this is known: it is heard by a worker of a task, and if
the task has no other workers, what it hears is what the results before the task say. -/
def Heard (tasks : List Task) (start engine : Engine) (run : Run) : Prop :=
  ∃ new, engine.hearings = start.hearings ++ new ∧
    ∀ hearing ∈ new, ∃ place task, tasks[place]? = some task ∧ hearing.worker ∈ task.workers ∧
      (task.workers.length = 1 →
        ∃ before, before.length = place ∧ before <+: run.ledger.results ∧
          hearing.briefing.prior = responsesOf before)

/-- A worker that has its task for itself is told what the results before it say. -/
theorem Tells.prior_of_alone {moment : Engine × Run} {last : Run} {task : Task} {index : Nat}
    {same : List Response} {hearing : Hearing}
    (h : Tells setup tasks action kind session moment last task index same hearing)
    (halone : task.workers.length = 1) :
    hearing.briefing.prior = responsesOf moment.2.ledger.results := by
  have hindex : index = 0 := by
    have hlt := (List.getElem?_eq_some_iff.mp h.worker).1
    omega
  have hsame : same = [] := by
    cases hmode : task.mode.isConcurrent with
    | true => exact h.atOnce hmode
    | false =>
        obtain ⟨-, hresponses⟩ := h.inTurn hmode
        rw [hindex, List.take_zero] at hresponses
        exact (Option.some.inj hresponses).symm
  rw [h.briefing, hsame]
  exact List.append_nil _

/-- What is heard while the run attends to an attempt is no exception. -/
theorem Heard.grow {start engine after : Engine} {run next : Run} {attempt : Attempt}
    {todo : List Task} (h : Heard tasks start engine run)
    (hbriefed : Briefed setup tasks action kind session { run with stage := .busy attempt todo })
    (hheard : engine.Hears ((run.called setup attempt engine).map Call.hearing) after)
    (hgrows : run.ledger.results <+: next.ledger.results) : Heard tasks start after next := by
  obtain ⟨new, hnew, hknown⟩ := h
  obtain ⟨more, hmore, hin⟩ := hheard
  refine ⟨new ++ more, by simp [hmore, hnew], fun hearing hhearing => ?_⟩
  rcases List.mem_append.mp hhearing with hearlier | hnow
  · obtain ⟨place, task, htask, hworker, hprior⟩ := hknown hearing hearlier
    refine ⟨place, task, htask, hworker, fun halone => ?_⟩
    obtain ⟨before, hlength, hfirst, hsaid⟩ := hprior halone
    exact ⟨before, hlength, hfirst.trans hgrows, hsaid⟩
  · obtain ⟨task, index, answered, same, -, hupholds, htells⟩ := hbriefed.exists_tells (hin hnow)
    have htold := htells _ hupholds
    exact ⟨_, task, htold.next, List.mem_of_getElem? htold.worker,
      fun halone => ⟨run.ledger.results, rfl, hgrows, htold.prior_of_alone halone⟩⟩

/-- All of this is kept. -/
theorem keeps_heard (setup : RunSetup) (tasks : List Task) (action : PlayerAction)
    (kind : ActionKind) (session : Session) (start : Engine) :
    Keeps setup fun engine run => Briefed setup tasks action kind session run ∧ run.Manned ∧
      Heard tasks start engine run where
  going := by
    intro engine after run attempt next todo h hlook
    obtain ⟨hbriefed, hmanned, hheard⟩ := h
    exact ⟨(keeps_briefed setup tasks action kind session).going hbriefed hlook,
      hmanned, hheard.grow hbriefed (hbriefed.attended hlook).heard List.prefix_rfl⟩
  ended := by
    intro engine after run attempt result todo h hlook
    obtain ⟨hbriefed, hmanned, hheard⟩ := h
    have hattended := hbriefed.attended hlook
    refine ⟨(keeps_briefed setup tasks action kind session).ended hbriefed hlook,
      fun other hother hidle => ?_, ?_⟩
    · rcases List.mem_append.mp hother with hold | hnew
      · exact hmanned other hold hidle
      · obtain rfl := List.mem_singleton.mp hnew
        exact (hattended.ended other rfl).2.1 hidle
    · obtain ⟨new, hnew, hin⟩ := hattended.heard
      exact hheard.grow hbriefed ⟨new, (hearings_close run setup result after).trans hnew, hin⟩
        (List.prefix_append _ _)
  stopped := by
    intro engine run attempt todo h
    obtain ⟨hbriefed, hmanned, new, hnew, hknown⟩ := h
    have hkeeps := keeps_briefed setup tasks action kind session
    refine ⟨@Keeps.stopped _ _ hkeeps engine _ _ _ hbriefed, hmanned, new, ?_, hknown⟩
    rw [← hnew]
    cases attempt with
    | waiting task since => rfl
    | executing execution => exact Call.hearings_abandonAll _ _

/-- So it holds when a run comes to its end. -/
theorem heard_play (setup : RunSetup) (tasks : List Task) (action : PlayerAction)
    (kind : ActionKind) (session : Session) (engine : Engine) (cancelAfter : Option Duration) :
    let ended := play setup engine (begin tasks action kind session engine.now) cancelAfter
    ended.2.Manned ∧ Heard tasks engine ended.1 ended.2 := by
  intro ended
  have hbegin : Briefed setup tasks action kind session
        (begin tasks action kind session engine.now) ∧
      (begin tasks action kind session engine.now).Manned ∧
      Heard tasks engine engine (begin tasks action kind session engine.now) :=
    ⟨briefed_begin setup tasks action kind session engine.now,
      fun _ hresult => absurd hresult List.not_mem_nil, [], (List.append_nil _).symm,
      fun _ hhearing => absurd hhearing List.not_mem_nil⟩
  exact (play_induction (keeps_heard setup tasks action kind session engine)
    (fun _ hheld => hheld) hbegin cancelAfter).2

/-- A worker that has only the last task, and has it for itself, is told what came of the others. -/
theorem Heard.prior_of_last {start engine : Engine} {run : Run} {others : List Task} {last : Task}
    {worker : WorkerKind} (h : Heard (others ++ [last]) start engine run)
    (hlast : last.workers = [worker]) (hothers : ∀ task ∈ others, worker ∉ task.workers) :
    ∃ new, engine.hearings = start.hearings ++ new ∧
      ∀ hearing ∈ new, hearing.worker = worker →
        hearing.briefing.prior = responsesOf (run.ledger.results.take others.length) := by
  obtain ⟨new, hnew, hknown⟩ := h
  refine ⟨new, hnew, fun hearing hhearing hworker => ?_⟩
  obtain ⟨place, task, htask, hbusy, hprior⟩ := hknown hearing hhearing
  rw [hworker] at hbusy
  rcases Nat.lt_or_ge place others.length with hlt | hge
  · rw [List.getElem?_append_left hlt] at htask
    exact absurd hbusy (hothers task (List.mem_of_getElem? htask))
  · rw [List.getElem?_append_right hge, List.getElem?_singleton] at htask
    obtain ⟨hplace, hsame⟩ := Option.ite_none_right_eq_some.mp htask
    obtain rfl := Option.some.inj hsame
    have halone : last.workers.length = 1 := by rw [hlast]; rfl
    obtain ⟨before, hlength, hfirst, hsaid⟩ := hprior halone
    have hall : before.length = others.length := by omega
    rw [hsaid, ← hall, ← List.prefix_iff_eq_take.mp hfirst]

end Run

/-- **Whatever is planned can be run, and ends with the story.** An anomaly, if there is one, comes
first; the last task is the only one for the one who tells the story, and it depends on all others
but the anomaly. Run to its end on any engine and with any workers, no task waits in vain or wants
for workers, and whatever the one who tells the story hears comes with every response of the other
tasks. -/
theorem Run.plan_runnable (planner : Planner) (action : PlayerAction) (session : Session)
    (draw : Float32) (setup : RunSetup) (engine : Engine) :
    let plan := planner.plan action session draw
    let anomaly := (Planner.anomaly? planner.settings session draw).toList
    let ended := Run.play setup engine
      (Run.begin plan.tasks action plan.kind session engine.now) none
    let results := ended.2.ledger.results
    (ended.2.stage = .finished ∧ results.map (·.task) = plan.tasks ∧
      ∀ result ∈ results, ¬ result.WaitedInVain ∧ result.error ≠ some .noWorkers) ∧
    ∃ others story, plan.EndsWithStory anomaly others story ∧
      ∃ new, ended.1.hearings = engine.hearings ++ new ∧
        ∀ hearing ∈ new, hearing.worker = .narrativeWriter → hearing.briefing.prior =
          responsesOf (results.take (anomaly ++ others).length) := by
  intro plan anomaly ended results
  obtain ⟨others, story, hplan⟩ := planner.exists_story action session draw
  obtain ⟨hfinished, hresults, hlawful⟩ :=
    Run.play_spec setup engine plan.tasks action plan.kind session
  obtain ⟨hmanned, hheard⟩ :=
    Run.heard_play setup plan.tasks action plan.kind session engine none
  have hworkers : ∀ task ∈ results.map (·.task), task.workers ≠ [] := by
    intro task htask
    rw [hresults] at htask
    rcases List.mem_append.mp (hplan.tasks ▸ htask) with hother | hstory
    · exact (hplan.workers task hother).1
    · rw [List.mem_singleton.mp hstory, hplan.teller]
      exact List.cons_ne_nil _ _
  refine ⟨⟨hfinished, hresults, fun result hresult =>
    ⟨Run.not_waitedInVain (planner.ready_plan action session draw) hresults hlawful hresult,
      hmanned.error_ne hworkers hresult⟩⟩, others, story, hplan, ?_⟩
  have hlast : Run.Heard (anomaly ++ others ++ [story]) engine ended.1 ended.2 :=
    hplan.tasks ▸ hheard
  exact hlast.prior_of_last hplan.teller fun task htask => (hplan.workers task htask).2

end StoryDirector
