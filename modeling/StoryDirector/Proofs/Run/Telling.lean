import StoryDirector.Proofs.Run.Ending
/-!
# StoryDirector.Proofs.Run.Telling

What the workers of a task are told. **They are told what the run has to tell them, and if they are
called one after another, also what those before them said** (`Execution.Informed`,
`Run.Attended`).

A look at a task at work goes in two steps: its calls are looked at and further ones are made
(`Execution.act`), and then it is decided whether the task is over. All calls are made in the first
step, so `Execution.Informed` speaks of the calls as it leaves them:

* the calls that were made and the workers that are yet to be called are the workers of the task;
* workers that are called at once are all told the same;
* otherwise each is told in addition the responses of the calls before its own.

A call that has its response never changes again (`Execution.act_answered`), so what a worker was
told is what the result of the task says in the end, if the task is in time.
-/

namespace StoryDirector

/-! ### What is heard -/

namespace Engine

variable {before between after : Engine} {told more : List Hearing}

/-- From one moment to another nothing was heard but some of these. -/
def Hears (before : Engine) (told : List Hearing) (after : Engine) : Prop :=
  ∃ new, after.hearings = before.hearings ++ new ∧ new ⊆ told

theorem Hears.of_eq (h : after.hearings = before.hearings) : Hears before told after :=
  ⟨[], by simp [h]⟩

theorem Hears.trans (h : Hears before told between) (hnext : Hears between told after) :
    Hears before told after := by
  obtain ⟨first, hfirst, hin⟩ := h
  obtain ⟨second, hsecond, hinNext⟩ := hnext
  exact ⟨first ++ second, by simp [hsecond, hfirst], List.append_subset.mpr ⟨hin, hinNext⟩⟩

theorem Hears.mono (h : Hears before told after) (hmore : told ⊆ more) :
    Hears before more after := by
  obtain ⟨new, hnew, hin⟩ := h
  exact ⟨new, hnew, List.Subset.trans hin hmore⟩

end Engine

/-! ### Calls -/

namespace Call

variable {setup : RunSetup} {call : Call} {engine : Engine}

/-- What is heard when the call is made. -/
def hearing (call : Call) : Hearing :=
  ⟨call.worker, call.briefing⟩

theorem attend_hears (inquiry : Inquiry) (began : Instant) (reply : Reply) :
    (call.attend inquiry began reply engine).2.hearing = call.hearing ∧
      (call.attend inquiry began reply engine).1.hearings = engine.hearings := by
  unfold attend
  split <;> exact ⟨rfl, rfl⟩

theorem pursue_hears (worker : Worker) (inquiry : Inquiry) :
    (call.pursue worker inquiry engine).2.hearing = call.hearing ∧
      engine.Hears [call.hearing] (call.pursue worker inquiry engine).1 := by
  unfold pursue
  dsimp only
  split
  · exact ⟨rfl, Engine.Hears.of_eq rfl⟩
  · -- The worker is called, which is heard, and attended to, which is not.
    obtain ⟨hcall, hheard⟩ := @attend_hears call
      { engine with
        store := (inquiry.approach engine.now engine.store).1
        hearings := engine.hearings ++ [call.hearing] }
      (inquiry.approach engine.now engine.store).2 engine.now
      (worker.reply (engine.heardBy call.worker) call.briefing)
    exact ⟨hcall, [call.hearing], hheard, List.Subset.refl _⟩
  case h_3 | h_4 | h_5 => exact ⟨rfl, Engine.Hears.of_eq rfl⟩

/-- A look leaves alone what the call is about, and nothing else is heard. -/
theorem look_hears (setup : RunSetup) (call : Call) (engine : Engine) :
    (call.look setup engine).2.hearing = call.hearing ∧
      engine.Hears [call.hearing] (call.look setup engine).1 := by
  unfold look
  split
  · unfold begin
    dsimp only
    split
    · exact ⟨rfl, Engine.Hears.of_eq rfl⟩
    · exact pursue_hears _ _
  · exact pursue_hears _ _
  · obtain ⟨hcall, hheard⟩ := @attend_hears call engine ‹_› ‹_› ‹_›
    exact ⟨hcall, Engine.Hears.of_eq hheard⟩
  · exact ⟨rfl, Engine.Hears.of_eq rfl⟩

/-- The same of several calls. -/
theorem lookAll_hears (setup : RunSetup) (calls : List Call) (engine : Engine) :
    (lookAll setup calls engine).2.map hearing = calls.map hearing ∧
      engine.Hears (calls.map hearing) (lookAll setup calls engine).1 := by
  induction calls generalizing engine with
  | nil => exact ⟨rfl, Engine.Hears.of_eq rfl⟩
  | cons call rest ih =>
      obtain ⟨hcall, hheard⟩ := look_hears setup call engine
      obtain ⟨hrest, hheardRest⟩ := ih (call.look setup engine).1
      refine ⟨by simp [lookAll, hcall, hrest], ?_⟩
      exact (hheard.mono (by simp)).trans (hheardRest.mono (by simp))

/-- A call that has its response is left as it is. -/
theorem look_of_response? {response : Response} (h : call.response? = some response) :
    call.look setup engine = (engine, call) := by
  unfold response? at h
  split at h
  case h_1 hstage => simp [look, hstage]
  case h_2 | h_3 | h_4 => cases h

theorem responses?_cons_eq_some {rest : List Call} {responses : List Response} :
    responses? (call :: rest) = some responses ↔
      ∃ first others, call.response? = some first ∧ responses? rest = some others ∧
        responses = first :: others := by
  simp only [responses?, List.mapM_cons, Option.bind_eq_bind, Option.bind_eq_some_iff,
    Option.pure_def, Option.some.injEq]
  grind

/-- So are several calls that have theirs. -/
theorem lookAll_answered (setup : RunSetup) {answered : List Call} {responses : List Response}
    (h : responses? answered = some responses) (rest : List Call) (engine : Engine) :
    lookAll setup (answered ++ rest) engine =
      ((lookAll setup rest engine).1, answered ++ (lookAll setup rest engine).2) := by
  induction answered generalizing responses engine with
  | nil => rfl
  | cons call others ih =>
      obtain ⟨response, more, hcall, hothers, -⟩ := responses?_cons_eq_some.mp h
      rw [List.cons_append, lookAll, look_of_response? hcall]
      simp [ih hothers]

/-- The first calls have the first responses. -/
theorem responses?_of_append {calls others : List Call} {responses same : List Response}
    (h : responses? (calls ++ others) = some responses) (hcalls : responses? calls = some same) :
    ∃ rest, responses = same ++ rest := by
  induction calls generalizing responses same with
  | nil =>
      obtain rfl := Option.some.inj hcalls
      exact ⟨responses, rfl⟩
  | cons call rest ih =>
      obtain ⟨first, more, hfirst, hmore, rfl⟩ := responses?_cons_eq_some.mp h
      obtain ⟨response, others, hresponse, hrest, rfl⟩ := responses?_cons_eq_some.mp hcalls
      obtain ⟨last, rfl⟩ := ih hmore hrest
      obtain rfl := Option.some.inj (hfirst.symm.trans hresponse)
      exact ⟨last, rfl⟩

theorem length_of_responses? {calls : List Call} {responses : List Response}
    (h : responses? calls = some responses) : responses.length = calls.length := by
  induction calls generalizing responses with
  | nil =>
      obtain rfl := Option.some.inj h
      rfl
  | cons call rest ih =>
      obtain ⟨first, others, -, hrest, rfl⟩ := responses?_cons_eq_some.mp h
      simp [ih hrest]

theorem hearings_abandonAll (calls : List Call) (engine : Engine) :
    (abandonAll calls engine).hearings = engine.hearings := by
  induction calls generalizing engine with
  | nil => rfl
  | cons call rest ih =>
      have hcall : (call.abandon engine).hearings = engine.hearings := by
        unfold abandon
        split <;> rfl
      exact (ih _).trans hcall

end Call

/-! ### Tasks at work -/

namespace Execution

variable {setup : RunSetup} {execution : Execution} {briefing : Briefing} {engine : Engine}

/-- The calls of a task are looked at, and further ones are made. -/
def act (execution : Execution) (setup : RunSetup) (engine : Engine) : Engine × Execution :=
  let looked := Call.lookAll setup execution.calls engine
  let called := callNext setup execution.briefing looked.2 execution.waiting looked.1
  (called.1, { execution with calls := called.2.1, waiting := called.2.2 })

/-- Then it is decided whether the task is over: all have answered, or it is late, or it goes on. -/
theorem look_of_act (execution : Execution) (setup : RunSetup) (engine : Engine) :
    (∃ result, execution.look setup engine = ((execution.act setup engine).1, .over result) ∧
        result.task = execution.task ∧
        (execution.act setup engine).2.responses? = some result.responses ∧
        result.error = verdict execution.task.mode result.responses) ∨
      (∃ result, execution.look setup engine =
          (Call.abandonAll (execution.act setup engine).2.calls (execution.act setup engine).1,
            .over result) ∧
        result.task = execution.task ∧ result.responses = [] ∧
        result.error = some (.deadlineExceeded setup.limits.taskDeadline) ∧
        (execution.act setup engine).2.responses? = none ∧
        execution.deadline setup ≤ (execution.act setup engine).1.now) ∨
      execution.look setup engine =
        ((execution.act setup engine).1, .going (execution.act setup engine).2) := by
  obtain ⟨seen, calls, hlook⟩ : ∃ seen calls,
      Call.lookAll setup execution.calls engine = (seen, calls) := ⟨_, _, rfl⟩
  obtain ⟨after, called, waiting, hnext⟩ : ∃ after called waiting,
      callNext setup execution.briefing calls execution.waiting seen = (after, called, waiting) :=
    ⟨_, _, _, rfl⟩
  have hact : execution.act setup engine =
      (after, { execution with calls := called, waiting }) := by
    simp only [act, hlook, hnext]
  have hdeadline : Execution.deadline { execution with calls := called, waiting } setup =
      execution.deadline setup := rfl
  rw [hact]
  cases hresponses : Execution.responses? { execution with calls := called, waiting } with
  | some responses =>
      left
      refine ⟨⟨execution.task, responses, Duration.seconds (after.now - execution.began),
        verdict execution.task.mode responses⟩, ?_, rfl, rfl, rfl⟩
      simp only [look, hlook, hnext, hresponses]
  | none =>
      right
      by_cases hlate : execution.deadline setup ≤ after.now
      · left
        refine ⟨⟨execution.task, [], Duration.seconds (after.now - execution.began),
          some (.deadlineExceeded setup.limits.taskDeadline)⟩, ?_, rfl, rfl, rfl, rfl, hlate⟩
        simp only [look, hlook, hnext, hresponses, hdeadline, if_pos hlate]
      · right
        simp only [look, hlook, hnext, hresponses, hdeadline, if_neg hlate]

/-- Where workers answered, it is not for want of workers that the task failed. -/
theorem verdict_ne_noWorkers (mode : Mode) (responses : List Response) :
    verdict mode responses ≠ some .noWorkers := by
  cases mode <;> simp [verdict]

/-- Each call is told, beyond a briefing, the responses of the calls before it. -/
def ToldInTurn (briefing : Briefing) (calls : List Call) : Prop :=
  ∀ index call, calls[index]? = some call → ∃ same,
    Call.responses? (calls.take index) = some same ∧
      call.briefing = { briefing with prior := briefing.prior ++ same }

/-- What the workers of a task are told. -/
structure Informed (execution : Execution) : Prop where
  /-- The workers that were called and those that are yet to be called are those of the task. -/
  workers : execution.calls.map (·.worker) ++ execution.waiting = execution.task.workers
  /-- Those that are called at once are told the same. -/
  atOnce : execution.task.mode.isConcurrent = true →
    execution.waiting = [] ∧ ∀ call ∈ execution.calls, call.briefing = execution.briefing
  /-- Those that are called one after another are also told what those before them said. -/
  inTurn : execution.task.mode.isConcurrent = false →
    ToldInTurn execution.briefing execution.calls

/-- What the workers of some calls of a task are told. -/
structure Told (task : Task) (briefing : Briefing) (calls : List Call) : Prop where
  /-- They are the first workers of the task. -/
  workers : calls.map (·.worker) <+: task.workers
  /-- Those that are called at once are told the same. -/
  atOnce : task.mode.isConcurrent = true → ∀ call ∈ calls, call.briefing = briefing
  /-- Those that are called one after another are also told what those before them said. -/
  inTurn : task.mode.isConcurrent = false → ToldInTurn briefing calls

theorem Informed.told (h : execution.Informed) :
    Told execution.task execution.briefing execution.calls where
  workers := ⟨execution.waiting, h.workers⟩
  atOnce := fun hmode => (h.atOnce hmode).2
  inTurn := h.inTurn

/-- Whatever else the worker of a call is told, it is of the same task and the same scene. -/
theorem Told.exists_prior {task : Task} {calls : List Call} {call : Call}
    (h : Told task briefing calls) (hcall : call ∈ calls) :
    ∃ prior, call.briefing = { briefing with prior } := by
  cases hmode : task.mode.isConcurrent with
  | true => exact ⟨briefing.prior, h.atOnce hmode call hcall⟩
  | false =>
      obtain ⟨index, hindex⟩ := List.mem_iff_getElem?.mp hcall
      obtain ⟨same, -, hbriefing⟩ := h.inTurn hmode index call hindex
      exact ⟨briefing.prior ++ same, hbriefing⟩

theorem told_nil (task : Task) (briefing : Briefing) : Told task briefing [] where
  workers := List.nil_prefix
  atOnce := fun _ _ hcall => absurd hcall List.not_mem_nil
  inTurn := fun _ _ _ hcall => by simp at hcall

theorem informed_begin (task : Task) (briefing : Briefing) (now : Instant) :
    (Execution.begin task briefing now).Informed := by
  unfold Execution.begin
  split
  case isTrue hmode =>
      refine ⟨by simp [Function.comp_def], fun _ => ⟨rfl, by simp⟩, fun hother => ?_⟩
      exact Bool.noConfusion (hmode.symm.trans hother)
  case isFalse hmode =>
      exact ⟨rfl, fun hother => absurd hother hmode, fun _ index call hcall => by simp at hcall⟩

/-- At the start of a task's work no call is made yet. -/
theorem fresh_begin (task : Task) (briefing : Briefing) (now : Instant) :
    ∀ call ∈ (Execution.begin task briefing now).calls,
      call.stage = .fresh ∧ call.briefing = briefing := by
  intro call hcall
  unfold Execution.begin at hcall
  split at hcall
  case isTrue =>
      obtain ⟨worker, -, rfl⟩ := List.mem_map.mp hcall
      exact ⟨rfl, rfl⟩
  case isFalse => exact absurd hcall List.not_mem_nil

/-- A look at the calls leaves them told what they were told. -/
theorem toldInTurn_lookAll {calls : List Call} (h : ToldInTurn briefing calls)
    (setup : RunSetup) (engine : Engine) :
    ToldInTurn briefing (Call.lookAll setup calls engine).2 := by
  intro index seen hseen
  have hsame := congrArg (·[index]?) (Call.lookAll_hears setup calls engine).1
  simp only [List.getElem?_map, hseen, Option.map_some] at hsame
  obtain ⟨call, hcall, hheard⟩ := Option.map_eq_some_iff.mp hsame.symm
  obtain ⟨same, hresponses, hbriefing⟩ := h index call hcall
  refine ⟨same, ?_, (congrArg Hearing.briefing hheard).symm.trans hbriefing⟩
  -- The calls before it have their responses, so they were left as they were.
  have hlength : (calls.take index).length = index :=
    List.length_take_of_le (Nat.le_of_lt (List.getElem?_eq_some_iff.mp hcall).1)
  have hanswered := Call.lookAll_answered setup hresponses (calls.drop index) engine
  rw [List.take_append_drop] at hanswered
  rw [hanswered, List.take_left' hlength, hresponses]

/-- One more call is told what those before it said. -/
theorem toldInTurn_concat {calls : List Call} {same : List Response} {call : Call}
    (h : ToldInTurn briefing calls) (hsame : Call.responses? calls = some same)
    (hcall : call.briefing = { briefing with prior := briefing.prior ++ same }) :
    ToldInTurn briefing (calls ++ [call]) := by
  intro index other hother
  rcases Nat.lt_or_ge index calls.length with hlt | hge
  · rw [List.getElem?_append_left hlt] at hother
    rw [List.take_append_of_le_length (Nat.le_of_lt hlt)]
    exact h index other hother
  · rw [List.getElem?_append_right hge, List.getElem?_singleton] at hother
    split at hother
    case isTrue hindex =>
        obtain rfl := Option.some.inj hother
        obtain rfl : index = calls.length := by omega
        exact ⟨same, by rw [List.take_left]; exact hsame, hcall⟩
    case isFalse => cases hother

/-- What comes of calling the next workers: the calls that were made are the first of those that are
made now, and no one but who is called hears anything. -/
structure Called (calls : List Call) (waiting : List WorkerKind) (engine : Engine)
    (next : Engine × List Call × List WorkerKind) : Prop where
  /-- No call is taken back, -/
  grows : calls <+: next.2.1
  /-- the workers are the same, -/
  workers : next.2.1.map (·.worker) ++ next.2.2 = calls.map (·.worker) ++ waiting
  /-- and only calls are heard. -/
  heard : engine.Hears (next.2.1.map Call.hearing) next.1

theorem called_callNext (setup : RunSetup) {calls : List Call} (waiting : List WorkerKind)
    (engine : Engine) (h : ToldInTurn briefing calls) :
    Called calls waiting engine (callNext setup briefing calls waiting engine) ∧
      ToldInTurn briefing (callNext setup briefing calls waiting engine).2.1 := by
  induction waiting generalizing calls engine with
  | nil => exact ⟨⟨List.prefix_rfl, rfl, Engine.Hears.of_eq rfl⟩, h⟩
  | cons worker rest ih =>
      unfold callNext
      cases hresponses : Call.responses? calls with
      | none => exact ⟨⟨List.prefix_rfl, rfl, Engine.Hears.of_eq rfl⟩, h⟩
      | some same =>
          let next : Call :=
            { worker, briefing := { briefing with prior := briefing.prior ++ same } }
          obtain ⟨hcall, hheard⟩ := Call.look_hears setup next engine
          have hworker := congrArg Hearing.worker hcall
          have hbriefing := congrArg Hearing.briefing hcall
          obtain ⟨⟨hgrows, hworkers, hheardRest⟩, htold⟩ :=
            ih (next.look setup engine).1 (toldInTurn_concat h hresponses hbriefing)
          refine ⟨⟨(List.prefix_append _ _).trans hgrows, hworkers.trans ?_, ?_⟩, htold⟩
          · simp only [List.map_append, List.map_singleton, List.append_assoc,
              List.singleton_append]
            exact congrArg (fun kind => calls.map (·.worker) ++ kind :: rest) hworker
          · refine (hheard.mono ?_).trans hheardRest
            rw [← hcall]
            exact List.map_subset _ (List.Subset.trans (List.subset_append_right _ _) hgrows.subset)

/-- The first step of a look keeps a task informed, and only its calls are heard. -/
theorem informed_act (h : execution.Informed) (setup : RunSetup) (engine : Engine) :
    (execution.act setup engine).2.Informed ∧
      engine.Hears ((execution.act setup engine).2.calls.map Call.hearing)
        (execution.act setup engine).1 := by
  obtain ⟨hsame, hlooked⟩ := Call.lookAll_hears setup execution.calls engine
  have hworkers := congrArg (List.map Hearing.worker) hsame
  rw [List.map_map, List.map_map] at hworkers
  cases hmode : execution.task.mode.isConcurrent with
  | true =>
      -- All were called at once, so no one is called now.
      obtain ⟨hnone, htold⟩ := h.atOnce hmode
      have hact : execution.act setup engine =
          ((Call.lookAll setup execution.calls engine).1,
            { execution with calls := (Call.lookAll setup execution.calls engine).2 }) := by
        simp [act, hnone, callNext]
      rw [hact]
      refine ⟨⟨?_, fun _ => ⟨hnone, ?_⟩, fun hother => ?_⟩, ?_⟩
      · exact (congrArg (· ++ execution.waiting) hworkers).trans h.workers
      · intro call hcall
        have hin := List.mem_map_of_mem (f := Call.hearing) hcall
        rw [hsame] at hin
        obtain ⟨first, hfirst, hheard⟩ := List.mem_map.mp hin
        exact (congrArg Hearing.briefing hheard).symm.trans (htold first hfirst)
      · exact Bool.noConfusion (hmode.symm.trans hother)
      · exact hsame ▸ hlooked
  | false =>
      obtain ⟨hcalled, htold⟩ := called_callNext setup execution.waiting
        (Call.lookAll setup execution.calls engine).1
        (toldInTurn_lookAll (h.inTurn hmode) setup engine)
      refine ⟨⟨?_, fun hother => ?_, fun _ => htold⟩, ?_⟩
      · exact (hcalled.workers.trans (congrArg (· ++ execution.waiting) hworkers)).trans h.workers
      · exact Bool.noConfusion (hmode.symm.trans hother)
      · refine (hlooked.mono ?_).trans hcalled.heard
        rw [← hsame]
        exact List.map_subset _ hcalled.grows.subset

/-- Calls that have their responses are the first calls for ever. -/
theorem act_answered (h : execution.Informed) {answered : List Call} {same : List Response}
    (hanswered : answered <+: execution.calls) (hsame : Call.responses? answered = some same) :
    answered <+: (execution.act setup engine).2.calls := by
  obtain ⟨rest, hrest⟩ := hanswered
  have hlooked := Call.lookAll_answered setup hsame rest engine
  rw [hrest] at hlooked
  have hstays : answered <+: (Call.lookAll setup execution.calls engine).2 := by
    rw [hlooked]
    exact List.prefix_append _ _
  cases hmode : execution.task.mode.isConcurrent with
  | true =>
      obtain ⟨hnone, -⟩ := h.atOnce hmode
      simpa [act, hnone, callNext] using hstays
  | false =>
      obtain ⟨hcalled, -⟩ := called_callNext setup execution.waiting
        (Call.lookAll setup execution.calls engine).1
        (toldInTurn_lookAll (h.inTurn hmode) setup engine)
      exact hstays.trans hcalled.grows

/-- A task has its responses once no worker is yet to be called and all calls have theirs. -/
theorem responses?_eq_some {responses : List Response} :
    execution.responses? = some responses ↔
      execution.waiting = [] ∧ Call.responses? execution.calls = some responses := by
  unfold responses?
  cases execution.waiting with
  | nil => simp
  | cons worker rest => simp

/-- If the task is in time, its result says first what they said. -/
theorem prefix_of_responses? {answered : List Call} {same responses : List Response}
    (hanswered : answered <+: execution.calls) (hsame : Call.responses? answered = some same)
    (h : execution.responses? = some responses) : same <+: responses := by
  obtain ⟨rest, hrest⟩ := hanswered
  obtain ⟨-, hcalls⟩ := responses?_eq_some.mp h
  rw [← hrest] at hcalls
  obtain ⟨more, rfl⟩ := Call.responses?_of_append hcalls hsame
  exact List.prefix_append _ _

end Execution

/-! ### Attempts -/

namespace Run

/-- The task at work when an attempt is looked at, with the engine as its workers find it. -/
def atWork (run : Run) (setup : RunSetup) (attempt : Attempt) (engine : Engine) :
    Option (Engine × Execution) :=
  match attempt with
  | .executing execution => some (engine, execution)
  | .waiting task since =>
    match run.ledger.wait? task.dependsOn setup.limits.dependencyTimeout since engine.now with
    | none | some (.error _) => none
    | some (.ok ()) =>
      if task.workers.isEmpty then none
      else
        some
          (engine.notify setup
            (Progress.taskStarted run.session.id task run.ledger.results.length run.total),
           Execution.begin task (run.briefing setup task) engine.now)

/-- The calls of the task at work as a look at the attempt leaves them. -/
def called (run : Run) (setup : RunSetup) (attempt : Attempt) (engine : Engine) : List Call :=
  match run.atWork setup attempt engine with
  | none => []
  | some (found, execution) => (execution.act setup found).2.calls

end Run

/-- What a task at work was told is what the run tells it. -/
def Attempt.Informed (setup : RunSetup) (run : Run) : Attempt → Prop
  | .waiting _ _ => True
  | .executing execution =>
    execution.Informed ∧ execution.briefing = run.briefing setup execution.task

namespace Run

variable {setup : RunSetup} {run : Run} {attempt : Attempt} {engine : Engine}

/-- A look at an attempt finds no task at work and calls no one, or it is a look at that task. -/
theorem lookAttempt_cases (run : Run) (setup : RunSetup) (attempt : Attempt) (engine : Engine) :
    (run.atWork setup attempt engine = none ∧
        (run.lookAttempt setup attempt engine = (engine, .going attempt) ∨
          ∃ after result, run.lookAttempt setup attempt engine = (after, .over result) ∧
            after.hearings = engine.hearings ∧ result.task = attempt.task ∧
            (result.error = some .noWorkers → result.task.workers = []))) ∨
      ∃ found execution, run.atWork setup attempt engine = some (found, execution) ∧
        run.lookAttempt setup attempt engine =
          run.lookAttempt setup (.executing execution) found ∧
        found.hearings = engine.hearings ∧ execution.task = attempt.task ∧
        (attempt.Informed setup run → (Attempt.executing execution).Informed setup run) := by
  cases attempt with
  | executing execution =>
      exact Or.inr ⟨engine, execution, rfl, rfl, rfl, rfl, id⟩
  | waiting task since =>
      unfold atWork lookAttempt lookWaiting
      dsimp only
      rcases Ledger.wait?_cases task.dependsOn setup.limits.dependencyTimeout since engine.now with
        ⟨hwait, -⟩ | ⟨-, hwait | ⟨hwait, -⟩⟩
      · rw [hwait]
        dsimp only
        split
        case isTrue hnone =>
            exact Or.inl ⟨rfl, Or.inr ⟨_, _, rfl, rfl, rfl, fun _ => List.isEmpty_iff.mp hnone⟩⟩
        case isFalse =>
            refine Or.inr ⟨_, _, rfl, rfl, rfl, Execution.task_begin _ _ _, fun _ => ⟨?_, ?_⟩⟩
            · exact Execution.informed_begin _ _ _
            · rw [Execution.task_begin, Execution.briefing_begin]
      · rw [hwait]
        exact Or.inl ⟨rfl, Or.inr ⟨engine, _, rfl, rfl, rfl, fun hidle => by cases hidle⟩⟩
      · rw [hwait]
        exact Or.inl ⟨rfl, Or.inl rfl⟩

/-- The workers that are called are told what the run tells them. -/
theorem told_called (h : attempt.Informed setup run) (engine : Engine) :
    Execution.Told attempt.task (run.briefing setup attempt.task)
      (run.called setup attempt engine) := by
  rcases lookAttempt_cases run setup attempt engine with
    ⟨hnone, -⟩ | ⟨found, execution, hwork, -, -, htask, hinformed⟩
  · have hcalled : run.called setup attempt engine = [] := by simp [called, hnone]
    rw [hcalled]
    exact Execution.told_nil _ _
  · have hcalled : run.called setup attempt engine = (execution.act setup found).2.calls := by
      simp [called, hwork]
    obtain ⟨hexecution, hbriefing⟩ := hinformed h
    have htold := (Execution.informed_act hexecution setup found).1.told
    rw [hcalled, ← htask, ← hbriefing]
    exact htold

/-- Calls that have their responses stay the first ones. -/
theorem called_answered {execution : Execution} {answered : List Call} {same : List Response}
    (h : execution.Informed) (hanswered : answered <+: execution.calls)
    (hsame : Call.responses? answered = some same) (run : Run) (setup : RunSetup)
    (engine : Engine) : answered <+: run.called setup (.executing execution) engine :=
  Execution.act_answered h hanswered hsame

/-- What comes of a look at an attempt. -/
structure Attended (setup : RunSetup) (run : Run) (attempt : Attempt) (engine : Engine)
    (seen : Engine × Standing Attempt) : Prop where
  /-- No one but who is called hears anything. -/
  heard : engine.Hears ((run.called setup attempt engine).map Call.hearing) seen.1
  /-- If it goes on, it is informed, and the calls are its calls unless there are none. -/
  going : ∀ next, seen.2 = .going next →
    next.task = attempt.task ∧ next.Informed setup run ∧
      ((run.called setup attempt engine = [] ∧ next = attempt) ∨
        ∃ execution, next = .executing execution ∧
          execution.calls = run.called setup attempt engine)
  /-- If it is over, it did not want for workers without need, and if it is in time, the result says
  what the calls came to. -/
  ended : ∀ result, seen.2 = .over result →
    result.task = attempt.task ∧ (result.error = some .noWorkers → result.task.workers = []) ∧
      ∀ answered same, answered <+: run.called setup attempt engine →
        Call.responses? answered = some same →
        result.error = some (.deadlineExceeded setup.limits.taskDeadline) ∨
          same <+: result.responses

theorem attended_lookAttempt (h : attempt.Informed setup run) (engine : Engine) :
    Attended setup run attempt engine (run.lookAttempt setup attempt engine) := by
  rcases lookAttempt_cases run setup attempt engine with
    ⟨hnone, hlook⟩ | ⟨found, execution, hwork, hlook, hheard, htask, hinformed⟩
  · have hcalled : run.called setup attempt engine = [] := by simp [called, hnone]
    rcases hlook with hlook | ⟨after, result, hlook, hheard, htask, hidle⟩
    · rw [hlook]
      refine ⟨Engine.Hears.of_eq rfl, fun next hnext => ?_, fun _ hresult => by cases hresult⟩
      obtain rfl := Standing.going.inj hnext
      exact ⟨rfl, h, Or.inl ⟨hcalled, rfl⟩⟩
    · rw [hlook]
      refine ⟨Engine.Hears.of_eq hheard, (fun _ hnext => by cases hnext), fun other hother => ?_⟩
      obtain rfl := Standing.over.inj hother
      refine ⟨htask, hidle, fun answered same hanswered hsame => Or.inr ?_⟩
      rw [hcalled, List.prefix_nil] at hanswered
      subst hanswered
      obtain rfl := Option.some.inj hsame
      exact List.nil_prefix
  · have hcalled : run.called setup attempt engine = (execution.act setup found).2.calls := by
      simp [called, hwork]
    obtain ⟨hexecution, hbriefing⟩ := hinformed h
    obtain ⟨hacted, hheardActed⟩ := Execution.informed_act hexecution setup found
    obtain ⟨new, hnew, hin⟩ := hheardActed
    rw [hheard] at hnew
    rw [hlook, lookAttempt]
    rcases Execution.look_of_act execution setup found with
      ⟨result, hover, hresult, hresponses, herror⟩ |
      ⟨result, hover, hresult, -, herror, -⟩ | hgoes
    · rw [hover]
      refine ⟨⟨new, hnew, hcalled ▸ hin⟩, (fun _ hnext => by cases hnext), fun other hother => ?_⟩
      obtain rfl := Standing.over.inj hother
      refine ⟨hresult.trans htask, fun hidle => ?_, fun answered same hanswered hsame => Or.inr ?_⟩
      · exact absurd (herror.symm.trans hidle) (Execution.verdict_ne_noWorkers _ _)
      · rw [hcalled] at hanswered
        exact Execution.prefix_of_responses? hanswered hsame hresponses
    · rw [hover]
      refine ⟨⟨new, (Call.hearings_abandonAll _ _).trans hnew, hcalled ▸ hin⟩,
        (fun _ hnext => by cases hnext), fun other hother => ?_⟩
      obtain rfl := Standing.over.inj hother
      refine ⟨hresult.trans htask, fun hidle => ?_, fun _ _ _ _ => Or.inl herror⟩
      cases herror.symm.trans hidle
    · rw [hgoes]
      refine ⟨⟨new, hnew, hcalled ▸ hin⟩, fun next hnext => ?_, fun _ hother => by cases hother⟩
      obtain rfl := Standing.going.inj hnext
      exact ⟨htask, ⟨hacted, hbriefing⟩, Or.inr ⟨_, rfl, hcalled.symm⟩⟩

end Run

end StoryDirector
