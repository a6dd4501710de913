import StoryDirector.Proofs.Run.Driving
import StoryDirector.Proofs.Run.Prompt
/-!
# StoryDirector.Proofs.Run.Transparency

**The cache leaves no trace in a run whose workers answer at once and from the question alone.** A
run on an engine that earlier runs have left behind (`Engine.Reached`) comes to the same end as the
same run on an engine that forgets every response at once, where every call of a registered worker
is really heard by it.

Both runs are driven side by side (`Solo.Twins`). At every look they are in the same state at the
same instant, because what a look makes of a run is a function of the run and the clock
(`Run.look_prompt`). The clock never runs backwards, for no alarm is set for the past; so what the
forgetful engine was told stays dead.
-/

namespace StoryDirector

namespace Engine

/-- The engine with a cache that forgets at once, and no one at work. -/
def forgetful (engine : Engine) : Engine :=
  { engine with store := { cache := Cache.create 0 1 } }

/-- The engines that come about with the workers of a registry, each with the runs that are under
way. They may belong to different setups, begin and be looked at in any order, and be cancelled or
given up, and between their looks the clock may stand at any instant. -/
inductive Reached (registry : Registry) : Engine → List Run → Prop where
  /-- No run was begun, and the cache is empty. -/
  | opened (engine : Engine) (ttl : Duration) (maxEntries : Nat) :
      Reached registry { engine with store := { cache := Cache.create ttl maxEntries } } []
  /-- A run begins. -/
  | begin {engine : Engine} {runs : List Run} (h : Reached registry engine runs)
      (tasks : List Task) (action : PlayerAction) (kind : ActionKind) (session : Session) :
      Reached registry engine (Run.begin tasks action kind session engine.now :: runs)
  /-- A run is looked at. -/
  | look {engine : Engine} {before after : List Run} {run : Run}
      (h : Reached registry engine (before ++ run :: after)) (setup : RunSetup)
      (hsetup : setup.registry = registry) (cancelled : Bool) :
      Reached registry (run.look setup cancelled engine).1
        (before ++ (run.look setup cancelled engine).2 :: after)
  /-- A run is given up. -/
  | leave {engine : Engine} {before after : List Run} {run : Run}
      (h : Reached registry engine (before ++ run :: after)) :
      Reached registry (run.abandon engine) (before ++ after)
  /-- The clock moves. -/
  | wind {engine : Engine} {runs : List Run} (h : Reached registry engine runs) (now : Instant) :
      Reached registry { engine with now } runs

variable {registry : Registry} {answer : AnswerRule} {engine : Engine} {runs : List Run}

/-- A run that is played to its end is one of the ways in which engines come about. -/
theorem Reached.play (h : Reached registry engine runs) {setup : RunSetup}
    (hsetup : setup.registry = registry) (tasks : List Task) (action : PlayerAction)
    (kind : ActionKind) (session : Session) (cancelAfter : Option Duration) :
    Reached registry
      (Run.play setup engine (Run.begin tasks action kind session engine.now) cancelAfter).1
      ((Run.play setup engine (Run.begin tasks action kind session engine.now) cancelAfter).2 ::
        runs) := by
  let P : Solo → Prop := fun solo => Reached registry solo.engine (solo.run :: runs)
  have hlook : ∀ solo, P solo → P ((Solo.clockwork setup).look solo) := by
    intro solo hsolo
    have hfirst : Reached registry solo.engine ([] ++ solo.run :: runs) := hsolo
    exact hfirst.look setup hsetup solo.cancelled
  have hwind : ∀ solo instant, P solo → (Solo.clockwork setup).alarm solo = some instant →
      P ((Solo.clockwork setup).wind instant solo) := fun solo instant hsolo _ => hsolo.wind instant
  have hbegin :
      P (Solo.begin engine (Run.begin tasks action kind session engine.now) cancelAfter) :=
    h.begin tasks action kind session
  exact Clockwork.play_induction hlook hwind _ hbegin

/-- Every engine that comes about is fair, and none of its runs is half done with a task. -/
theorem Reached.fair (h : Reached registry engine runs) (hprompt : registry.Prompt answer) :
    engine.Fair answer ∧ ∀ run ∈ runs, run.Calm := by
  induction h with
  | opened engine ttl maxEntries =>
      refine ⟨⟨Flights.idle_empty, ?_⟩, ?_⟩
      · exact fun entry hentry => absurd hentry List.not_mem_nil
      · exact fun run hrun => absurd hrun List.not_mem_nil
  | begin _ tasks action kind session ih =>
      refine ⟨ih.1, fun run hrun => ?_⟩
      rcases List.mem_cons.mp hrun with rfl | hrun
      · exact Run.calm_begin tasks action kind session _
      · exact ih.2 run hrun
  | @look engine before after run _ setup hsetup cancelled ih =>
      subst hsetup
      obtain ⟨hfair, hcalm⟩ := ih
      have hrun : run.Calm := hcalm run (List.mem_append_right _ List.mem_cons_self)
      obtain ⟨seen, responses, hlook, hserved, -⟩ := Run.look_prompt hprompt hfair hrun cancelled
      rw [hlook]
      refine ⟨hserved.fair, fun other hother => ?_⟩
      rcases List.mem_append.mp hother with hother | hother
      · exact hcalm other (List.mem_append_left _ hother)
      · rcases List.mem_cons.mp hother with rfl | hother
        · exact Run.calm_seen hrun setup answer cancelled engine.now
        · exact hcalm other (List.mem_append_right _ (List.mem_cons_of_mem _ hother))
  | @leave engine before after run _ ih =>
      obtain ⟨hfair, hcalm⟩ := ih
      have hrun : run.Calm := hcalm run (List.mem_append_right _ List.mem_cons_self)
      rw [Run.abandon_of_calm hrun]
      refine ⟨hfair, fun other hother => hcalm other ?_⟩
      rcases List.mem_append.mp hother with hother | hother
      · exact List.mem_append_left _ hother
      · exact List.mem_append_right _ (List.mem_cons_of_mem _ hother)
  | wind _ now ih => exact ⟨⟨ih.1.idle, ih.1.truthful⟩, ih.2⟩

end Engine

namespace Solo

variable {setup : RunSetup} {answer : AnswerRule}

theorem look_eq (setup : RunSetup) (solo : Solo) :
    solo.look setup =
      { solo with
        engine := (solo.run.look setup solo.cancelled solo.engine).1
        run := (solo.run.look setup solo.cancelled solo.engine).2
        cancelled := solo.cancelled ||
          (solo.cancelAt.any (· ≤ (solo.run.look setup solo.cancelled solo.engine).1.now) &&
            (solo.run.look setup solo.cancelled solo.engine).2.isBusy) } := by
  rw [look]
  cases solo.cancelAt <;> rfl

/-- The same run on two engines, one of which forgets. -/
structure Twins (setup : RunSetup) (answer : AnswerRule) (heard : List WorkerKind)
    (cached plain : Solo) : Prop where
  /-- The runs are in the same state, -/
  run : cached.run = plain.run
  /-- at the same instant, -/
  now : cached.engine.now = plain.engine.now
  /-- and are cancelled alike. -/
  cancelAt : cached.cancelAt = plain.cancelAt
  /-- They were cancelled alike. -/
  cancelled : cached.cancelled = plain.cancelled
  /-- The engine with the cache is fair. -/
  cachedFair : cached.engine.Fair answer
  /-- So is the one that forgets. -/
  plainFair : plain.engine.Fair answer
  /-- No task is half done. -/
  calm : plain.run.Calm
  /-- One engine forgets. -/
  forgetful : plain.engine.Forgetful
  /-- On it, each response of a registered worker was heard. -/
  heard : plain.engine.hearings.map (·.worker) =
    heard ++ (plain.run.ledger.responses.map (·.worker)).filter setup.registry.has
  /-- No alarm is set for the past. -/
  ahead : ∀ instant, plain.alarm setup = some instant → plain.engine.now ≤ instant

variable {heard : List WorkerKind} {cached plain : Solo}

theorem Twins.left (h : Twins setup answer heard cached plain) : cached.left = plain.left := by
  rw [Solo.left, Solo.left, h.run, h.cancelled]

theorem Twins.alarm (h : Twins setup answer heard cached plain) :
    cached.alarm setup = plain.alarm setup := by
  rw [Solo.alarm, Solo.alarm, h.run, h.cancelled, h.cancelAt]

/-- Winding the clock to an alarm keeps twins twins. -/
theorem Twins.wind (h : Twins setup answer heard cached plain) {instant : Instant}
    (hset : plain.alarm setup = some instant) :
    Twins setup answer heard ((clockwork setup).wind instant cached)
      ((clockwork setup).wind instant plain) where
  run := h.run
  now := rfl
  cancelAt := h.cancelAt
  cancelled := h.cancelled
  cachedFair := ⟨h.cachedFair.idle, h.cachedFair.truthful⟩
  plainFair := ⟨h.plainFair.idle, h.plainFair.truthful⟩
  calm := h.calm
  forgetful := ⟨h.forgetful.ttl, fun entry hentry =>
    Nat.le_trans (h.forgetful.dead entry hentry) (h.ahead instant hset)⟩
  heard := h.heard
  ahead := by
    intro other hother
    have hsame : plain.alarm setup = some other := hother
    rw [hset] at hsame
    exact Nat.le_of_eq (Option.some.inj hsame)

/-- After a look at a run, every alarm is yet to come. -/
theorem lt_of_alarm_look (hprompt : setup.registry.Prompt answer) {solo : Solo}
    (hfair : solo.engine.Fair answer) (hcalm : solo.run.Calm) {instant : Instant}
    (h : (solo.look setup).alarm setup = some instant) : solo.engine.now < instant := by
  obtain ⟨after, _, hlook, hserved, _⟩ := Run.look_prompt hprompt hfair hcalm solo.cancelled
  rw [look_eq, hlook] at h
  dsimp only at h
  rw [hserved.now, alarm] at h
  dsimp only at h
  rcases Run.stage_seen hcalm setup answer solo.cancelled solo.engine.now with
    hover | ⟨task, since, todo, hwaits, hleft⟩
  · rw [hover] at h
    cases h
  · have hbusy : (solo.run.seen setup answer solo.cancelled solo.engine.now).isBusy = true := by
      rw [Run.isBusy, hwaits]
    have hset : (solo.run.seen setup answer solo.cancelled solo.engine.now).alarm setup =
        some (since + setup.limits.dependencyTimeout) := by
      rw [Run.alarm, hwaits]
    rw [hbusy, hset, if_pos rfl, Bool.and_true] at h
    show solo.engine.now + 1 ≤ instant
    refine Clockwork.le_of_earlier ?_ ?_ h
    · intro due hdue
      rw [← Option.some.inj hdue]
      exact hleft
    · -- The instant of cancelling is yet to come, or it is no alarm any more.
      intro due hdue
      split at hdue
      · cases hdue
      case isFalse hgoes =>
          rw [hdue] at hgoes
          refine Nat.lt_of_not_le fun hover => hgoes ?_
          simp [hover]

/-- A look keeps twins twins. -/
theorem Twins.look (hprompt : setup.registry.Prompt answer)
    (h : Twins setup answer heard cached plain) :
    Twins setup answer heard (cached.look setup) (plain.look setup) := by
  have hahead : ∀ instant, (plain.look setup).alarm setup = some instant →
      plain.engine.now < instant :=
    fun _ hset => lt_of_alarm_look hprompt h.plainFair h.calm hset
  have hcalm : cached.run.Calm := by
    rw [h.run]
    exact h.calm
  obtain ⟨after, _, hlook, hserved, -⟩ :=
    Run.look_prompt hprompt h.cachedFair hcalm cached.cancelled
  obtain ⟨afterPlain, responses, hplain, hservedPlain, hresponses⟩ :=
    Run.look_prompt hprompt h.plainFair h.calm plain.cancelled
  obtain ⟨hforgetful, hheard⟩ := hservedPlain.heard h.forgetful
  have hnow : after.now = afterPlain.now := by rw [hserved.now, hservedPlain.now, h.now]
  -- What a look makes of the run does not depend on the engine but for its clock.
  have hrun : cached.run.seen setup answer cached.cancelled cached.engine.now =
      plain.run.seen setup answer plain.cancelled plain.engine.now := by
    rw [h.run, h.cancelled, h.now]
  have hsolo := look_eq setup plain
  rw [look_eq, hsolo, hlook, hplain]
  rw [hsolo, hplain] at hahead
  dsimp only at hahead ⊢
  exact {
    run := hrun
    now := hnow
    cancelAt := h.cancelAt
    cancelled := by
      dsimp only
      rw [hrun, h.cancelled, h.cancelAt, hnow]
    cachedFair := hserved.fair
    plainFair := hservedPlain.fair
    calm := Run.calm_seen h.calm setup answer plain.cancelled plain.engine.now
    forgetful := hforgetful
    heard := by
      dsimp only
      rw [hheard, h.heard, hresponses, List.map_append, List.filter_append, List.append_assoc]
    ahead := by
      intro instant hset
      dsimp only
      rw [hservedPlain.now]
      exact Nat.le_of_lt (hahead instant hset) }

/-- A run on a fair engine and the same run on the engine that forgets start as twins. -/
theorem twins_begin {engine : Engine} (hfair : engine.Fair answer) (tasks : List Task)
    (action : PlayerAction) (kind : ActionKind) (session : Session)
    (cancelAfter : Option Duration) :
    Twins setup answer (engine.hearings.map (·.worker))
      (Solo.begin engine (Run.begin tasks action kind session engine.now) cancelAfter)
      (Solo.begin engine.forgetful (Run.begin tasks action kind session engine.now)
        cancelAfter) where
  run := rfl
  now := rfl
  cancelAt := rfl
  cancelled := rfl
  cachedFair := hfair
  plainFair := ⟨Flights.idle_empty, fun entry hentry => absurd hentry List.not_mem_nil⟩
  calm := Run.calm_begin tasks action kind session engine.now
  forgetful := ⟨rfl, fun entry hentry => absurd hentry List.not_mem_nil⟩
  heard := (List.append_nil _).symm
  ahead := by
    intro instant hset
    cases tasks with
    | nil => cases hset
    | cons task rest =>
        refine Clockwork.le_of_earlier ?_ ?_ hset
        · intro due hdue
          rw [← Option.some.inj hdue]
          exact Nat.le_add_right _ _
        · intro due hdue
          split at hdue
          · cases hdue
          · obtain ⟨span, -, rfl⟩ := Option.map_eq_some_iff.mp hdue
            exact Nat.le_add_right _ _

end Solo

/-- Whatever engine earlier runs with the same workers have left behind: a run on it comes to the
same results, the same report and the same session as on an engine that forgets all it is told, and
there each response of a registered worker was heard by the worker. -/
theorem Run.cache_transparent {answer : AnswerRule} {setup : RunSetup}
    (hprompt : setup.registry.Prompt answer) {engine : Engine} {runs : List Run}
    (hengine : Engine.Reached setup.registry engine runs) (tasks : List Task)
    (action : PlayerAction) (kind : ActionKind) (session : Session)
    (cancelAfter : Option Duration) :
    let run := Run.begin tasks action kind session engine.now
    let cached := Run.play setup engine run cancelAfter
    let plain := Run.play setup engine.forgetful run cancelAfter
    cached.2 = plain.2 ∧ cached.1.now = plain.1.now ∧
      plain.1.hearings.map (·.worker) = engine.hearings.map (·.worker) ++
        (plain.2.ledger.responses.map (·.worker)).filter setup.registry.has := by
  intro run cached plain
  have hbegin : Solo.Twins setup answer (engine.hearings.map (·.worker))
      (Solo.begin engine run cancelAfter) (Solo.begin engine.forgetful run cancelAfter) :=
    Solo.twins_begin (hengine.fair hprompt).1 tasks action kind session cancelAfter
  have hlook : ∀ one other, Solo.Twins setup answer (engine.hearings.map (·.worker)) one other →
      Solo.Twins setup answer (engine.hearings.map (·.worker))
        ((Solo.clockwork setup).look one) ((Solo.clockwork setup).look other) :=
    fun _ _ h => h.look hprompt
  have hends := Clockwork.play_simulation hlook (fun _ _ h => h.left)
    (fun _ _ _ h hset => h.wind (h.alarm.symm.trans hset)) (fun _ _ h => h.alarm) hbegin
  exact ⟨hends.run, hends.now, hends.heard⟩

/-- A worker that always remembers the same. -/
def Worker.steady : Worker where
  kind := .historian
  reply _ _ := { outcome := .responded { worker := .historian, narrative := some "as ever" } }

/-- A setup with a worker that always remembers the same. -/
def RunSetup.steady : RunSetup where
  registry := { workers := [Worker.steady] }
  cascade := CascadeRules.standard {}

/-- A task for the worker that always remembers the same. -/
def Task.steady : Task where
  id := "recall"
  name := "recall"
  workers := [.historian]
  mode := .parallel

/-- An engine on which the task was run once. -/
def Engine.steady : Engine :=
  let opened : Engine := Engine.create {} {}
  (Run.play RunSetup.steady opened
    (Run.begin [Task.steady] { text := "look" } .dialogue { id := ⟨7⟩, turn := 1 } opened.now)).1

/-- The second run of a task, which the cache may answer, is the same as without the cache. -/
theorem Run.cache_transparent_steady :
    (Run.play RunSetup.steady Engine.steady (Run.begin [Task.steady, Task.steady] { text := "look" }
        .dialogue { id := ⟨7⟩, turn := 1 } Engine.steady.now)).2 =
      (Run.play RunSetup.steady Engine.steady.forgetful (Run.begin [Task.steady, Task.steady]
        { text := "look" } .dialogue { id := ⟨7⟩, turn := 1 } Engine.steady.now)).2 := by
  have hprompt : RunSetup.steady.registry.Prompt fun _ _ =>
      .responded { worker := .historian, narrative := some "as ever" } := by
    intro worker hworker heard briefing
    obtain rfl := List.mem_singleton.mp hworker
    rfl
  have hopened : Engine.Reached RunSetup.steady.registry (Engine.create {} {}) [] :=
    Engine.Reached.opened (Engine.create {} {}) _ _
  exact (Run.cache_transparent hprompt (hopened.play rfl [Task.steady] { text := "look" } .dialogue
    { id := ⟨7⟩, turn := 1 } none) [Task.steady, Task.steady] { text := "look" } .dialogue
    { id := ⟨7⟩, turn := 1 } none).1

end StoryDirector
