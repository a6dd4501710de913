import StoryDirector.Run.Solo
import StoryDirector.Proofs.Run.Driving
/-!
# StoryDirector.Proofs.Run.Stepwise

A look at a run, one attempt at a time. **What survives one look at one attempt, and giving an
attempt up, survives a look at the run** (`Run.look_induction`), however many tasks are over in the
course of it.

A look pursues several tasks with the stage of the run left as it was, and sets the stage at its end
only. The rule hides this: between two attempts it shows the run with the attempt that is next. So
does `Run.attend`, which sees to one attempt and no more; where that is over, to look is to attend
and to look again (`Run.look_attend`). What winding the clock does not break either holds to the end
(`Run.play_induction`).
-/

namespace StoryDirector

namespace Run

variable {setup : RunSetup}

/-- What a look at the attempts of a run keeps. -/
structure Keeps (setup : RunSetup) (P : Engine → Run → Prop) : Prop where
  /-- It is kept when an attempt goes on, -/
  going : ∀ {engine after : Engine} {run : Run} {attempt next : Attempt} {todo : List Task},
    P engine { run with stage := .busy attempt todo } →
    run.lookAttempt setup attempt engine = (after, .going next) →
    P after { run with stage := .busy next todo }
  /-- when an attempt is over and the next task is to be attempted, if there is one, -/
  ended : ∀ {engine after : Engine} {run : Run} {attempt : Attempt} {result : TaskResult}
    {todo : List Task}, P engine { run with stage := .busy attempt todo } →
    run.lookAttempt setup attempt engine = (after, .over result) →
    P (run.close setup result after).1
      { (run.close setup result after).2 with
        stage := stageOf (run.close setup result after).1.now todo }
  /-- and when an attempt is given up. -/
  stopped : ∀ {engine : Engine} {run : Run} {attempt : Attempt} {todo : List Task},
    P engine { run with stage := .busy attempt todo } →
    P (abandonAttempt attempt engine) { run with stage := .cancelled }

/-- The run sees to the attempt that is under way, and to none after it. -/
def attend (run : Run) (setup : RunSetup) (engine : Engine) : Engine × Run :=
  match run.stage with
  | .finished | .cancelled => (engine, run)
  | .busy attempt todo =>
    match run.lookAttempt setup attempt engine with
    | (after, .going next) => (after, { run with stage := .busy next todo })
    | (after, .over result) =>
      let (closed, run) := run.close setup result after
      (closed, { run with stage := stageOf closed.now todo })

/-- The stage that a run is shown with does not matter to a look at its attempts. -/
theorem pursue_stage (todo : List Task) (attempt : Attempt) (engine : Engine) (run : Run)
    (stage : RunStage) :
    pursue setup todo attempt engine { run with stage } = pursue setup todo attempt engine run := by
  induction todo generalizing attempt engine run with
  | nil =>
      rw [pursue, pursue]
      rfl
  | cons task rest ih =>
      have hlook : lookAttempt { run with stage } setup attempt engine =
          run.lookAttempt setup attempt engine := rfl
      rw [pursue, pursue, hlook]
      cases run.lookAttempt setup attempt engine with
      | mk after standing =>
          rcases standing with next | result
          · rfl
          · have hclose : close { run with stage } setup result after =
                ((run.close setup result after).1,
                 { (run.close setup result after).2 with stage }) := by
              rw [close, close]
              cases result.error <;> rfl
            dsimp only
            rw [hclose]
            exact ih _ _ _

/-- If the attempt is over, to look is to attend and to look again. -/
theorem look_attend {run : Run} {attempt : Attempt} {todo : List Task} {engine after : Engine}
    {result : TaskResult} (hstage : run.stage = .busy attempt todo)
    (hlook : run.lookAttempt setup attempt engine = (after, .over result)) :
    (run.attend setup engine).2.look setup false (run.attend setup engine).1 =
      run.look setup false engine := by
  simp only [attend, hstage, hlook]
  rw [look, look, hstage]
  cases todo with
  | nil =>
      simp only [Bool.false_eq_true, if_false]
      rw [pursue, hlook]
      rfl
  | cons task rest =>
      have hpursue : pursue setup (task :: rest) attempt engine run =
          pursue setup rest (.waiting task (run.close setup result after).1.now)
            (run.close setup result after).1 (run.close setup result after).2 := by
        rw [pursue, hlook]
      simp only [Bool.false_eq_true, if_false]
      rw [hpursue]
      exact pursue_stage rest _ _ _ _

variable {P : Engine → Run → Prop}

/-- What survives a look at one attempt survives attending to it. -/
theorem attend_induction (h : Keeps setup P) {engine : Engine} {run : Run} (hrun : P engine run) :
    P (run.attend setup engine).1 (run.attend setup engine).2 := by
  rw [attend]
  cases hstage : run.stage with
  | finished => exact hrun
  | cancelled => exact hrun
  | busy attempt todo =>
      have hbusy : P engine { run with stage := .busy attempt todo } := by
        rw [← hstage]
        exact hrun
      dsimp only
      cases hlook : run.lookAttempt setup attempt engine with
      | mk after standing =>
          rcases standing with next | result
          · exact h.going hbusy hlook
          · exact h.ended hbusy hlook

theorem pursue_induction (h : Keeps setup P) (todo : List Task) {attempt : Attempt}
    {engine : Engine} {run : Run} (hrun : P engine { run with stage := .busy attempt todo }) :
    P (pursue setup todo attempt engine run).1 (pursue setup todo attempt engine run).2 := by
  induction todo generalizing attempt engine run with
  | nil =>
      rw [pursue]
      cases hlook : run.lookAttempt setup attempt engine with
      | mk after standing =>
          rcases standing with next | result
          · exact h.going hrun hlook
          · exact h.ended hrun hlook
  | cons task rest ih =>
      rw [pursue]
      cases hlook : run.lookAttempt setup attempt engine with
      | mk after standing =>
          rcases standing with next | result
          · exact h.going hrun hlook
          · exact ih (h.ended hrun hlook)

/-- What survives a look at one attempt, and giving it up, survives a look at the run. -/
theorem look_induction (h : Keeps setup P) (cancelled : Bool) {engine : Engine} {run : Run}
    (hrun : P engine run) :
    P (run.look setup cancelled engine).1 (run.look setup cancelled engine).2 := by
  rw [look]
  cases hstage : run.stage with
  | finished => exact hrun
  | cancelled => exact hrun
  | busy attempt todo =>
      have hbusy : P engine { run with stage := .busy attempt todo } := by
        rw [← hstage]
        exact hrun
      cases cancelled with
      | true => exact h.stopped hbusy
      | false => exact pursue_induction h todo hbusy

/-- What survives this, and the winding of the clock to an instant not after the run's alarm, holds
when the run is at its end. -/
theorem play_induction (h : Keeps setup P)
    (hwind : ∀ {engine : Engine} {run : Run} {instant : Instant},
      (∀ due, run.alarm setup = some due → instant ≤ due) → P engine run →
        P { engine with now := instant } run)
    {engine : Engine} {run : Run} (hrun : P engine run) (cancelAfter : Option Duration) :
    P (play setup engine run cancelAfter).1 (play setup engine run cancelAfter).2 := by
  let held : Solo → Prop := fun solo => P solo.engine solo.run
  have hlook : ∀ solo, held solo → held ((Solo.clockwork setup).look solo) :=
    fun solo hsolo => look_induction h solo.cancelled hsolo
  have hwound : ∀ solo instant, held solo → (Solo.clockwork setup).alarm solo = some instant →
      held ((Solo.clockwork setup).wind instant solo) := by
    intro solo instant hsolo hset
    have halarm : solo.alarm setup = some instant := hset
    unfold Solo.alarm at halarm
    have hahead : ∀ due, solo.run.alarm setup = some due → instant ≤ due := by
      intro due hdue
      rw [hdue] at halarm
      split at halarm
      case isTrue => exact Clockwork.earlier_le halarm
      case isFalse => cases halarm
    exact hwind hahead hsolo
  exact Clockwork.play_induction hlook hwound (Solo.begin engine run cancelAfter) hrun

/-- A run that no one stops is not stopped. -/
theorem stage_pursue_ne_cancelled (todo : List Task) (attempt : Attempt) (engine : Engine)
    (run : Run) : (pursue setup todo attempt engine run).2.stage ≠ .cancelled := by
  induction todo generalizing attempt engine run with
  | nil =>
      rw [pursue]
      split
      · exact RunStage.noConfusion
      · exact RunStage.noConfusion
  | cons task rest ih =>
      rw [pursue]
      split
      · exact RunStage.noConfusion
      · exact ih _ _ _

/-- A run that is stopped keeps the session as the finished tasks left it. -/
theorem session_of_look_cancelled {run : Run} {cancelled : Bool} {engine : Engine}
    (h : (run.look setup cancelled engine).2.stage = .cancelled) :
    (run.look setup cancelled engine).2.session = run.session := by
  rw [look] at h ⊢
  cases hstage : run.stage with
  | finished => rfl
  | cancelled => rfl
  | busy attempt todo =>
      rw [hstage] at h
      cases cancelled with
      | true => rfl
      | false => exact absurd h (stage_pursue_ne_cancelled todo attempt engine run)

end Run

end StoryDirector
