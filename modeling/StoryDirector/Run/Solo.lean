import StoryDirector.Run
/-!
# StoryDirector.Run.Solo

One run alone on the clock, perhaps with someone who cancels it. **The run is looked at before the
one who cancels**, so work that completes at the instant of cancelling completes.
-/

namespace StoryDirector

/-- A run alone on the clock. -/
structure Solo where
  /-- What the run shares with others before and after it. -/
  engine : Engine
  /-- The run. -/
  run : Run
  /-- When someone cancels the run. -/
  cancelAt : Option Instant
  /-- Whether someone did. -/
  cancelled : Bool

namespace Solo

/-- The run does what it can; then the one who cancels does if it is time. -/
def look (setup : RunSetup) (solo : Solo) : Solo :=
  let (engine, run) := solo.run.look setup solo.cancelled solo.engine
  let due := match solo.cancelAt with
    | some instant => decide (instant ≤ engine.now)
    | none => false
  { solo with engine, run, cancelled := solo.cancelled || (due && run.isBusy) }

/-- How many steps are left at most. -/
def left (solo : Solo) : Nat :=
  solo.run.left + if solo.cancelled then 0 else 1

/-- The next instant at which something can happen. -/
def alarm (setup : RunSetup) (solo : Solo) : Option Instant :=
  if solo.run.isBusy then
    Clockwork.earlier (solo.run.alarm setup) (if solo.cancelled then none else solo.cancelAt)
  else none

/-- A run alone on the clock, driven to its end. -/
def clockwork (setup : RunSetup) : Clockwork Solo where
  look := look setup
  left := left
  alarm := alarm setup
  wind instant solo := { solo with engine := { solo.engine with now := instant } }

/-- A run that starts now and is cancelled so much later, if at all. Cancelling after no time means
before the start. -/
def begin (engine : Engine) (run : Run) (cancelAfter : Option Duration) : Solo where
  engine := engine
  run := run
  cancelAt := cancelAfter.map (engine.now + ·)
  cancelled := cancelAfter = some 0

end Solo

/-- Runs some tasks to the end. -/
def Run.play (setup : RunSetup) (engine : Engine) (run : Run)
    (cancelAfter : Option Duration := none) : Engine × Run :=
  let ended := (Solo.clockwork setup).play (Solo.begin engine run cancelAfter)
  (ended.engine, ended.run)

end StoryDirector
