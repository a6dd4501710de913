import StoryDirector.Proofs.Plan.Ready
import StoryDirector.Proofs.Run.Driving
import StoryDirector.Proofs.Run.Prompt
/-!
# StoryDirector.Proofs.Run.AtOnce

Tasks that can be run as they stand, and workers that answer at once and from the question alone.
**The run is over at the first look, and what comes of it is a function of the tasks, the action and
the session** (`Run.look_of_ready`). Neither the clock nor what earlier runs left in the engine has
a part in it: no task ever waits, so nothing is timed.
-/

namespace StoryDirector

namespace Run

variable {setup : RunSetup} {answer : AnswerRule} {run : Run} {task : Task} {tasks todo : List Task}

/-- What comes of a task that finds all it depends on. -/
def outcome (run : Run) (setup : RunSetup) (answer : AnswerRule) (task : Task) : TaskResult :=
  if task.workers.isEmpty then { task, error := some .noWorkers }
  else Execution.promptResult setup.registry answer task (run.briefing setup task).fingerprint

/-- What becomes of a run that goes through some tasks. -/
def through (setup : RunSetup) (answer : AnswerRule) (tasks : List Task) (run : Run) : Run :=
  tasks.foldl (fun run task => run.record setup (run.outcome setup answer task)) run

/-- What becomes of a run of some tasks when nothing is timed. -/
def promptly (setup : RunSetup) (answer : AnswerRule) (tasks : List Task) (action : PlayerAction)
    (kind : ActionKind) (session : Session) : Run :=
  through setup answer tasks { begin tasks action kind session 0 with stage := .finished }

@[simp] theorem task_outcome (run : Run) (setup : RunSetup) (answer : AnswerRule) (task : Task) :
    (run.outcome setup answer task).task = task := by
  unfold outcome
  split <;> rfl

@[simp] theorem stage_through (setup : RunSetup) (answer : AnswerRule) (tasks : List Task)
    (run : Run) : (through setup answer tasks run).stage = run.stage := by
  induction tasks generalizing run with
  | nil => rfl
  | cons task rest ih => exact ih _

theorem stage_promptly (setup : RunSetup) (answer : AnswerRule) (tasks : List Task)
    (action : PlayerAction) (kind : ActionKind) (session : Session) :
    (promptly setup answer tasks action kind session).stage = .finished := by
  simp [promptly]

/-- Of what some task before it bears, nothing is missing to a task. -/
theorem missing_of_ready (h : Task.Ready (run.ledger.results.map (·.task.id)) (task :: todo)) :
    run.ledger.missing task.dependsOn = [] := by
  refine List.filter_eq_nil_iff.mpr fun id hid => ?_
  obtain ⟨result, hresult, hbears⟩ := List.mem_map.mp (h.1 id hid)
  have hhas : run.ledger.has id = true :=
    List.any_eq_true.mpr ⟨result, hresult, decide_eq_true hbears⟩
  simp [hhas]

/-- A task to which nothing is missing is over at once. -/
theorem attempted_of_met (h : run.ledger.missing task.dependsOn = []) (setup : RunSetup)
    (answer : AnswerRule) (since now : Instant) :
    run.attempted setup answer task since now = some (run.outcome setup answer task) := by
  have hwait : run.ledger.wait? task.dependsOn setup.limits.dependencyTimeout since now =
      some (.ok ()) := by
    simp [Ledger.wait?, h]
  unfold attempted outcome
  rw [hwait]
  dsimp only
  split <;> rfl

/-- Tasks that can be run as they stand are gone through at once. -/
theorem advance_of_ready (h : Task.Ready (run.ledger.results.map (·.task.id)) (task :: todo))
    (setup : RunSetup) (answer : AnswerRule) (now since : Instant) :
    advance setup answer now todo task since run =
      through setup answer (task :: todo) { run with stage := .finished } := by
  induction todo generalizing task since run with
  | nil =>
      rw [advance, attempted_of_met (missing_of_ready h)]
      rfl
  | cons next rest ih =>
      rw [advance, attempted_of_met (missing_of_ready h)]
      have hrest : Task.Ready ((run.record setup (run.outcome setup answer task)).ledger.results.map
          (·.task.id)) (next :: rest) := by
        simpa using h.2
      exact ih hrest now

/-- **Tasks that can be run as they stand are all over at the first look.** -/
theorem look_of_ready {engine : Engine} (hprompt : setup.registry.Prompt answer)
    (hfair : engine.Fair answer) (hready : Task.Ready [] tasks) (action : PlayerAction)
    (kind : ActionKind) (session : Session) :
    ∃ after responses,
      (begin tasks action kind session engine.now).look setup false engine =
        (after, promptly setup answer tasks action kind session) ∧
      Engine.Served setup.registry answer engine responses after := by
  obtain ⟨after, responses, hlook, hserved, -⟩ :=
    look_prompt hprompt hfair (calm_begin tasks action kind session engine.now) false
  refine ⟨after, responses, hlook.trans (congrArg (Prod.mk after) ?_), hserved⟩
  cases tasks with
  | nil => rfl
  | cons task rest =>
      -- At the start there are no results, so nothing but the tasks themselves is known.
      have hstart : Task.Ready ((begin (task :: rest) action kind session
          engine.now).ledger.results.map (·.task.id)) (task :: rest) := hready
      exact advance_of_ready hstart setup answer engine.now engine.now

/-- So a run of such tasks that no one cancels ends at once. -/
theorem play_of_ready {engine : Engine} (hprompt : setup.registry.Prompt answer)
    (hfair : engine.Fair answer) (hready : Task.Ready [] tasks) (action : PlayerAction)
    (kind : ActionKind) (session : Session) :
    (play setup engine (begin tasks action kind session engine.now) none).2 =
      promptly setup answer tasks action kind session := by
  obtain ⟨after, -, hlook, -⟩ := look_of_ready hprompt hfair hready action kind session
  have hfinished := stage_promptly setup answer tasks action kind session
  let done : Solo := ⟨after, promptly setup answer tasks action kind session, none, false⟩
  have hend : (Solo.clockwork setup).play
      (Solo.begin engine (begin tasks action kind session engine.now) none) = done := by
    refine Clockwork.play_of_look ?_ ?_ ?_
    · show Solo.look setup _ = done
      simp only [Solo.look, Solo.begin, Option.map_none, done]
      have hgoes : decide ((none : Option Duration) = some 0) = false := rfl
      rw [hgoes, hlook]
      rfl
    · show Solo.look setup done = done
      simp only [Solo.look, done, look_finished hfinished]
      rfl
    · show Solo.alarm setup done = none
      simp only [Solo.alarm, done, isBusy, hfinished]
      rfl
  exact congrArg Solo.run hend

end Run

end StoryDirector
