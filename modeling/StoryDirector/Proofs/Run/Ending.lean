import StoryDirector.Run.Solo
import StoryDirector.Proofs.Run.Driving
/-!
# StoryDirector.Proofs.Run.Ending

**A run that no one cancels attempts every task and ends, whatever its workers and its engine do.**
Each look leaves no more to be done than there was (`left`), and less once an alarm is due, so the
clockwork stops only when no alarm is set, that is, when the run is over.

On the way the results say of each task whether it waited in vain: exactly if, when its turn came,
no earlier result bore one of the identities it depends on (`Ledger.Lawful`). `Run.Orderly` is the
invariant: the results so far are lawful and belong to the first tasks, the others are yet to come,
and a task at work found all it depends on.
-/

namespace StoryDirector

namespace Clockwork

theorem total_append (first second : List Nat) :
    total (first ++ second) = total first + total second := by
  induction first with
  | nil => simp
  | cons count rest ih => rw [List.cons_append, total_cons, total_cons, ih, Nat.add_assoc]

/-- The earliest of some alarms is one of them. -/
theorem mem_of_earliest {alarms : List (Option Instant)} {instant : Instant}
    (h : earliest alarms = some instant) : some instant ∈ alarms := by
  have hfold : ∀ first : Option Instant, alarms.foldl earlier first = some instant →
      first = some instant ∨ some instant ∈ alarms := by
    clear h
    induction alarms with
    | nil => exact fun first h => Or.inl h
    | cons alarm rest ih =>
        intro first h
        rcases ih (earlier first alarm) h with hearlier | hrest
        · cases first with
          | none => exact Or.inr (hearlier ▸ List.mem_cons_self)
          | some due =>
              cases alarm with
              | none => exact Or.inl hearlier
              | some other =>
                  rcases Nat.le_total due other with hle | hle
                  · left
                    rw [← hearlier, earlier, Nat.min_eq_left hle]
                  · right
                    rw [← hearlier, earlier, Nat.min_eq_right hle]
                    exact List.mem_cons_self
        · exact Or.inr (List.mem_cons_of_mem _ hrest)
  exact (hfold none h).resolve_left (Option.some_ne_none instant).symm

/-- An alarm that is set leaves some alarm set. -/
theorem earliest_cons_ne_none (due : Instant) (alarms : List (Option Instant)) :
    earliest (some due :: alarms) ≠ none := by
  show alarms.foldl earlier (some due) ≠ none
  induction alarms generalizing due with
  | nil => exact Option.some_ne_none due
  | cons alarm rest ih =>
      cases alarm with
      | none => exact ih due
      | some other => exact ih (min due other)

end Clockwork

/-! ### Calls -/

namespace Call

variable (setup : RunSetup) (call : Call) (engine : Engine)

theorem attend_spec (inquiry : Inquiry) (began : Instant) (reply : Reply) :
    (call.attend inquiry began reply engine).1.now = engine.now ∧
      (call.attend inquiry began reply engine).2.left ≤ 1 ∧
      (began + reply.delay ≤ engine.now →
        (call.attend inquiry began reply engine).2.left = 0) := by
  rw [attend]
  split
  case isTrue => exact ⟨rfl, Nat.zero_le _, fun _ => rfl⟩
  case isFalse hearly => exact ⟨rfl, Nat.le_refl _, fun hdue => absurd hdue hearly⟩

theorem start_spec (worker : Worker) (inquiry : Inquiry) :
    (call.start worker inquiry engine).1.now = engine.now ∧
      (call.start worker inquiry engine).2.left ≤ 1 := by
  obtain ⟨hnow, hleft, -⟩ := attend_spec call
    { engine with hearings := engine.hearings ++ [⟨call.worker, call.briefing⟩] } inquiry engine.now
    (worker.reply (engine.heardBy call.worker) call.briefing)
  exact ⟨hnow, hleft⟩

theorem pursue_spec (worker : Worker) (inquiry : Inquiry) :
    (call.pursue worker inquiry engine).1.now = engine.now ∧
      (call.pursue worker inquiry engine).2.left ≤ 2 := by
  rw [pursue]
  generalize inquiry.approach engine.now engine.store = approached
  obtain ⟨store, inquiry⟩ := approached
  dsimp only
  split
  · exact ⟨rfl, Nat.zero_le _⟩
  · obtain ⟨hnow, hleft⟩ := start_spec call { engine with store } worker inquiry
    exact ⟨hnow, Nat.le_succ_of_le hleft⟩
  case h_3 | h_4 | h_5 => exact ⟨rfl, Nat.le_refl _⟩

theorem begin_spec : (call.begin setup engine).1.now = engine.now ∧
    (call.begin setup engine).2.left ≤ 2 := by
  rw [begin]
  cases setup.registry.get? call.worker with
  | none => exact ⟨rfl, Nat.zero_le _⟩
  | some worker => exact pursue_spec call _ worker _

/-- A look leaves the clock alone, leaves no more to be done, and less if the call is fresh or its
reply is due. -/
theorem look_spec :
    (call.look setup engine).1.now = engine.now ∧
      (call.look setup engine).2.left ≤ call.left ∧
      (call.stage = .fresh → (call.look setup engine).2.left ≤ 2) ∧
      ∀ instant, call.alarm = some instant → instant ≤ engine.now →
        (call.look setup engine).2.left < call.left := by
  cases hstage : call.stage with
  | fresh =>
      have hlook : call.look setup engine = call.begin setup engine := by rw [look, hstage]
      have hbefore : call.left = 3 := by rw [left, hstage]
      have hsilent : call.alarm = none := by rw [alarm, hstage]
      obtain ⟨hnow, hleft⟩ := begin_spec setup call engine
      rw [hlook, hbefore, hsilent]
      exact ⟨hnow, Nat.le_succ_of_le hleft, fun _ => hleft, nofun⟩
  | queued worker inquiry =>
      have hlook : call.look setup engine = call.pursue worker inquiry engine := by
        rw [look, hstage]
      have hbefore : call.left = 2 := by rw [left, hstage]
      have hsilent : call.alarm = none := by rw [alarm, hstage]
      obtain ⟨hnow, hleft⟩ := pursue_spec call engine worker inquiry
      rw [hlook, hbefore, hsilent]
      exact ⟨hnow, hleft, fun _ => hleft, nofun⟩
  | working inquiry began reply =>
      have hlook : call.look setup engine = call.attend inquiry began reply engine := by
        rw [look, hstage]
      have hbefore : call.left = 1 := by rw [left, hstage]
      have hset : call.alarm = some (began + reply.delay) := by rw [alarm, hstage]
      obtain ⟨hnow, hleft, hdue⟩ := attend_spec call engine inquiry began reply
      rw [hlook, hbefore, hset]
      refine ⟨hnow, hleft, fun _ => Nat.le_succ_of_le hleft, fun instant hinstant hover => ?_⟩
      rw [← Option.some.inj hinstant] at hover
      rw [hdue hover]
      exact Nat.zero_lt_one
  | answered response =>
      have hlook : call.look setup engine = (engine, call) := by rw [look, hstage]
      have hsilent : call.alarm = none := by rw [alarm, hstage]
      rw [hlook, hsilent]
      exact ⟨rfl, Nat.le_refl _, nofun, nofun⟩

/-- The same of several calls. -/
theorem lookAll_spec (calls : List Call) :
    (lookAll setup calls engine).1.now = engine.now ∧
      Clockwork.total ((lookAll setup calls engine).2.map left) ≤
        Clockwork.total (calls.map left) ∧
      ∀ instant, some instant ∈ calls.map alarm → instant ≤ engine.now →
        Clockwork.total ((lookAll setup calls engine).2.map left) <
          Clockwork.total (calls.map left) := by
  induction calls generalizing engine with
  | nil => exact ⟨rfl, Nat.le_refl _, nofun⟩
  | cons call rest ih =>
      obtain ⟨hnow, hleft, -, hdue⟩ := look_spec setup call engine
      obtain ⟨hnowRest, hleftRest, hdueRest⟩ := ih (call.look setup engine).1
      refine ⟨hnowRest.trans hnow, Nat.add_le_add hleft hleftRest, fun instant hset hover => ?_⟩
      rcases List.mem_cons.mp hset with hcall | hrest
      · exact Nat.add_lt_add_of_lt_of_le (hdue instant hcall.symm hover) hleftRest
      · exact Nat.add_lt_add_of_le_of_lt hleft (hdueRest instant hrest (by rwa [hnow]))

theorem now_abandonAll (calls : List Call) : (abandonAll calls engine).now = engine.now := by
  induction calls generalizing engine with
  | nil => rfl
  | cons call rest ih =>
      have hcall : (call.abandon engine).now = engine.now := by
        rw [abandon]
        split <;> rfl
      exact (ih (call.abandon engine)).trans hcall

end Call

/-- The task waited in vain for tasks that it depends on. -/
def TaskResult.WaitedInVain (result : TaskResult) : Prop :=
  ∃ missing limit, result.error = some (.dependencyTimeout missing limit)

/-! ### Tasks at work -/

namespace Execution

variable (setup : RunSetup) (execution : Execution) (engine : Engine)

/-- Calling the next workers leaves the clock alone and leaves no more to be done: who is called
counts less than who is yet to be called. -/
theorem callNext_spec (briefing : Briefing) (calls : List Call) (waiting : List WorkerKind) :
    (callNext setup briefing calls waiting engine).1.now = engine.now ∧
      Clockwork.total ((callNext setup briefing calls waiting engine).2.1.map Call.left) +
          4 * (callNext setup briefing calls waiting engine).2.2.length ≤
        Clockwork.total (calls.map Call.left) + 4 * waiting.length := by
  induction waiting generalizing calls engine with
  | nil => exact ⟨rfl, Nat.le_refl _⟩
  | cons worker rest ih =>
      rw [callNext]
      cases Call.responses? calls with
      | none => exact ⟨rfl, Nat.le_refl _⟩
      | some responses =>
          obtain ⟨hnow, -, hfresh, -⟩ := Call.look_spec setup
            { worker, briefing := { briefing with prior := briefing.prior ++ responses } } engine
          have hleft := hfresh rfl
          dsimp only
          generalize Call.look
            { worker, briefing := { briefing with prior := briefing.prior ++ responses } }
            setup engine = looked at hnow hleft ⊢
          obtain ⟨seen, call⟩ := looked
          obtain ⟨hnowRest, hrest⟩ := ih seen (calls ++ [call])
          refine ⟨hnowRest.trans hnow, Nat.le_trans hrest ?_⟩
          rw [List.map_append, Clockwork.total_append, List.length_cons]
          simp only [List.map_cons, List.map_nil, Clockwork.total_cons, Clockwork.total_nil]
          dsimp only at hleft
          omega

theorem verdict_ne_dependencyTimeout (mode : Mode) (responses : List Response)
    (missing : List String) (limit : Duration) :
    verdict mode responses ≠ some (.dependencyTimeout missing limit) := by
  cases mode with
  | consensus =>
      rw [verdict]
      split
      · nofun
      · nofun
  | _ =>
      rw [verdict]
      split
      · nofun
      · nofun

/-- The three ways in which a look at a task at work ends, once its calls were looked at. -/
theorem look_cases {seen after : Engine} {calls called : List Call} {waiting : List WorkerKind}
    (hlook : Call.lookAll setup execution.calls engine = (seen, calls))
    (hnext : callNext setup execution.briefing calls execution.waiting seen =
      (after, called, waiting)) :
    (∃ result, execution.look setup engine = (after, .over result) ∧
        result.task = execution.task ∧ ¬ result.WaitedInVain) ∨
      (∃ result, execution.look setup engine = (Call.abandonAll called after, .over result) ∧
        result.task = execution.task ∧ ¬ result.WaitedInVain) ∨
      (execution.look setup engine = (after, .going { execution with calls := called, waiting }) ∧
        after.now < execution.deadline setup) := by
  cases hresponses : Execution.responses? { execution with calls := called, waiting } with
  | some responses =>
      left
      refine ⟨⟨execution.task, responses, Duration.seconds (after.now - execution.began),
        verdict execution.task.mode responses⟩, ?_, rfl, ?_⟩
      · simp only [look, hlook, hnext, hresponses]
      · rintro ⟨missing, limit, herror⟩
        exact verdict_ne_dependencyTimeout _ _ _ _ herror
  | none =>
      have hdeadline : Execution.deadline { execution with calls := called, waiting } setup =
          execution.deadline setup := rfl
      right
      by_cases hlate : execution.deadline setup ≤ after.now
      · left
        refine ⟨⟨execution.task, [], Duration.seconds (after.now - execution.began),
          some (.deadlineExceeded setup.limits.taskDeadline)⟩, ?_, rfl, ?_⟩
        · simp only [look, hlook, hnext, hresponses, hdeadline, if_pos hlate]
        · rintro ⟨missing, limit, herror⟩
          cases herror
      · right
        refine ⟨by simp only [look, hlook, hnext, hresponses, hdeadline, if_neg hlate], ?_⟩
        exact Nat.lt_of_not_le hlate

/-- What a look at a task at work comes to: it goes on with no more to be done, and with less if an
alarm is due, or it is over, and not for want of what it depends on. -/
theorem look_spec :
    (execution.look setup engine).1.now = engine.now ∧
      match (execution.look setup engine).2 with
      | .going next =>
        next.task = execution.task ∧ next.left ≤ execution.left ∧
          ∀ instant, execution.alarm setup = some instant → instant ≤ engine.now →
            next.left < execution.left
      | .over result => result.task = execution.task ∧ ¬ result.WaitedInVain := by
  obtain ⟨hnow, hleft, hdue⟩ := Call.lookAll_spec setup engine execution.calls
  generalize hlook : Call.lookAll setup execution.calls engine = looked at hnow hleft hdue
  obtain ⟨seen, calls⟩ := looked
  obtain ⟨hnowNext, hleftNext⟩ :=
    callNext_spec setup seen execution.briefing calls execution.waiting
  generalize hnext : callNext setup execution.briefing calls execution.waiting seen = called
    at hnowNext hleftNext
  obtain ⟨after, called, waiting⟩ := called
  have hclock : after.now = engine.now := hnowNext.trans hnow
  rcases look_cases setup execution engine hlook hnext with
    ⟨result, hover, hresult⟩ | ⟨result, hover, hresult⟩ | ⟨hgoes, hintime⟩
  · rw [hover]
    exact ⟨hclock, hresult⟩
  · rw [hover]
    exact ⟨(Call.now_abandonAll after called).trans hclock, hresult⟩
  · rw [hgoes]
    dsimp only at hleft hdue hleftNext
    refine ⟨hclock, rfl, ?_, fun instant hset hover => ?_⟩
    · simp only [left]
      omega
    · have hless : Clockwork.total (calls.map Call.left) <
          Clockwork.total (execution.calls.map Call.left) := by
        refine hdue instant ?_ hover
        -- The deadline is not what is due, or the task would be over.
        refine (List.mem_cons.mp (Clockwork.mem_of_earliest hset)).resolve_left fun heq => ?_
        rw [hclock] at hintime
        rw [Option.some.inj heq] at hover
        exact Nat.not_le_of_lt hintime hover
      simp only [left]
      omega

@[simp] theorem task_begin (task : Task) (briefing : Briefing) (now : Instant) :
    (Execution.begin task briefing now).task = task := by
  unfold Execution.begin
  split <;> rfl

@[simp] theorem briefing_begin (task : Task) (briefing : Briefing) (now : Instant) :
    (Execution.begin task briefing now).briefing = briefing := by
  unfold Execution.begin
  split <;> rfl

theorem left_begin_lt (task : Task) (briefing : Briefing) (now : Instant) :
    (Execution.begin task briefing now).left < Run.steps task := by
  rw [Execution.begin]
  split
  · have hcalls : ∀ workers : List WorkerKind,
        Clockwork.total ((workers.map fun worker => ({ worker, briefing } : Call)).map Call.left) =
          3 * workers.length := by
      intro workers
      induction workers with
      | nil => rfl
      | cons worker rest ih =>
          rw [List.map_cons, List.map_cons, Clockwork.total_cons, ih, List.length_cons]
          show 3 + 3 * rest.length = 3 * (rest.length + 1)
          omega
    rw [left, hcalls, Run.steps]
    simp only [List.length_nil]
    omega
  · rw [left, Run.steps]
    simp only [List.map_nil, Clockwork.total_nil]
    omega

end Execution

/-! ### What the results say -/

namespace Ledger

/-- A result says that its task waited in vain exactly if no earlier result bears one of the
identities that the task depends on. -/
def Lawful (ledger : Ledger) : Prop :=
  ∀ before result after, ledger.results = before ++ result :: after →
    (result.WaitedInVain ↔
      ∃ id ∈ result.task.dependsOn, ∀ earlier ∈ before, earlier.task.id ≠ id)

variable {ledger : Ledger}

theorem missing_ne_nil_iff {ids : List String} :
    ledger.missing ids ≠ [] ↔ ∃ id ∈ ids, ∀ earlier ∈ ledger.results, earlier.task.id ≠ id := by
  have hhas : ∀ id, ledger.has id = false ↔ ∀ earlier ∈ ledger.results, earlier.task.id ≠ id := by
    intro id
    rw [has, List.any_eq_false]
    simp only [decide_eq_true_eq, ne_eq]
  constructor
  · intro hmissing
    obtain ⟨id, hid⟩ := List.exists_mem_of_ne_nil _ hmissing
    obtain ⟨hin, hnone⟩ := mem_missing.mp hid
    exact ⟨id, hin, (hhas id).mp hnone⟩
  · rintro ⟨id, hin, hnone⟩
    exact List.ne_nil_of_mem (mem_missing.mpr ⟨hin, (hhas id).mpr hnone⟩)

theorem lawful_empty : Lawful {} := by
  intro before result after hsplit
  simp at hsplit

/-- A result of the ledger with one more is the new one, or one of the ledger. -/
theorem results_record_cases {result other : TaskResult} {before after : List TaskResult}
    (h : (ledger.record result).results = before ++ other :: after) :
    (ledger.results = before ∧ result = other) ∨
      ∃ rest, ledger.results = before ++ other :: rest := by
  rcases List.eq_nil_or_concat after with rfl | ⟨rest, last, rfl⟩
  · obtain ⟨hbefore, hother⟩ := List.append_inj' h rfl
    exact Or.inl ⟨hbefore, (List.cons.inj hother).1⟩
  · have hwhole : ledger.results ++ [result] = (before ++ other :: rest) ++ [last] := by
      simpa [record] using h
    exact Or.inr ⟨rest, (List.append_inj' hwhole rfl).1⟩

theorem lawful_record (h : ledger.Lawful) {result : TaskResult}
    (hresult : result.WaitedInVain ↔ ledger.missing result.task.dependsOn ≠ []) :
    (ledger.record result).Lawful := by
  intro before other after hsplit
  rcases results_record_cases hsplit with ⟨rfl, rfl⟩ | ⟨rest, hold⟩
  · rw [hresult, missing_ne_nil_iff]
  · exact h before other rest hold

/-- A wait ends well if nothing is missing, and in vain, once its time is up, if something is. -/
theorem wait?_cases (ids : List String) (limit : Duration) (since now : Instant) :
    (ledger.wait? ids limit since now = some (.ok ()) ∧ ledger.missing ids = []) ∨
      (ledger.missing ids ≠ [] ∧
        (ledger.wait? ids limit since now =
            some (.error (.dependencyTimeout (ledger.missing ids) limit)) ∨
          ledger.wait? ids limit since now = none ∧ now < since + limit)) := by
  rw [wait?]
  by_cases hmissing : ledger.missing ids = []
  · left
    rw [hmissing]
    exact ⟨rfl, rfl⟩
  · right
    have hsome : ¬ (ledger.missing ids).isEmpty = true := by
      rwa [List.isEmpty_iff]
    rw [if_neg hsome]
    refine ⟨hmissing, ?_⟩
    by_cases hlate : since + limit ≤ now
    · rw [if_pos hlate]
      exact Or.inl rfl
    · rw [if_neg hlate]
      exact Or.inr ⟨rfl, Nat.lt_of_not_le hlate⟩

end Ledger

/-! ### Attempts -/

namespace Attempt

/-- The task that is attempted. -/
def task : Attempt → Task
  | .waiting task _ => task
  | .executing execution => execution.task

/-- How many steps are left at most. -/
def left : Attempt → Nat
  | .waiting task _ => Run.steps task
  | .executing execution => execution.left

/-- The next instant at which the attempt can go on. -/
def alarm (setup : RunSetup) : Attempt → Option Instant
  | .waiting _ since => some (since + setup.limits.dependencyTimeout)
  | .executing execution => execution.alarm setup

/-- A task at work found all that it depends on. -/
def Sound (ledger : Ledger) : Attempt → Prop
  | .waiting _ _ => True
  | .executing execution => ledger.missing execution.task.dependsOn = []

theorem alarm_ne_none (setup : RunSetup) (attempt : Attempt) : attempt.alarm setup ≠ none := by
  cases attempt with
  | waiting task since => exact Option.some_ne_none _
  | executing execution => exact Clockwork.earliest_cons_ne_none _ _

theorem left_pos (attempt : Attempt) : 0 < attempt.left := by
  cases attempt with
  | waiting task since => exact Nat.succ_pos _
  | executing execution => exact Nat.succ_pos _

end Attempt

namespace Run

variable (setup : RunSetup) (run : Run) (engine : Engine)

theorem left_of_busy {run : Run} {attempt : Attempt} {todo : List Task}
    (h : run.stage = .busy attempt todo) :
    run.left = attempt.left + Clockwork.total (todo.map steps) := by
  rw [left, h]
  cases attempt <;> rfl

theorem alarm_of_busy {run : Run} {attempt : Attempt} {todo : List Task}
    (h : run.stage = .busy attempt todo) : run.alarm setup = attempt.alarm setup := by
  rw [alarm, h]
  cases attempt <;> rfl

/-- What a look at an attempt comes to. -/
structure Attempted (setup : RunSetup) (run : Run) (attempt : Attempt) (engine : Engine)
    (standing : Standing Attempt) : Prop where
  /-- It goes on with the same task, and with less to be done if an alarm is due, -/
  going : ∀ next, standing = .going next →
    next.task = attempt.task ∧ next.Sound run.ledger ∧ next.left ≤ attempt.left ∧
      ∀ instant, attempt.alarm setup = some instant → instant ≤ engine.now →
        next.left < attempt.left
  /-- or it is over, and the result says whether the task waited in vain. -/
  ended : ∀ result, standing = .over result →
    result.task = attempt.task ∧
      (result.WaitedInVain ↔ run.ledger.missing attempt.task.dependsOn ≠ [])

theorem lookExecution_spec {execution : Execution}
    (hsound : run.ledger.missing execution.task.dependsOn = []) :
    (run.lookAttempt setup (.executing execution) engine).1.now = engine.now ∧
      Attempted setup run (.executing execution) engine
        (run.lookAttempt setup (.executing execution) engine).2 := by
  obtain ⟨hnow, hlook⟩ := Execution.look_spec setup execution engine
  generalize hlooked : execution.look setup engine = looked at hnow hlook
  obtain ⟨after, standing⟩ := looked
  rcases standing with next | result
  · obtain ⟨htask, hleft, hdue⟩ := hlook
    have hattempt : run.lookAttempt setup (.executing execution) engine =
        (after, .going (.executing next)) := by
      rw [lookAttempt, hlooked]
    rw [hattempt]
    refine ⟨hnow, fun other hother => ?_, (fun _ hother => by cases hother)⟩
    obtain rfl := Standing.going.inj hother
    refine ⟨htask, ?_, hleft, hdue⟩
    show run.ledger.missing next.task.dependsOn = []
    rw [htask, hsound]
  · obtain ⟨htask, hin⟩ := hlook
    have hattempt : run.lookAttempt setup (.executing execution) engine =
        (after, .over result) := by
      rw [lookAttempt, hlooked]
    rw [hattempt]
    refine ⟨hnow, (fun _ hother => by cases hother), fun other hother => ?_⟩
    obtain rfl := Standing.over.inj hother
    exact ⟨htask, fun hvain => absurd hvain hin, fun hmissing => absurd hsound hmissing⟩

/-- What a look at a task that waits comes to. -/
inductive Waited (setup : RunSetup) (run : Run) (task : Task) (since : Instant) (engine : Engine) :
    Engine × Standing Attempt → Prop where
  /-- Something is missing, and there is time left. -/
  | waits (hearly : engine.now < since + setup.limits.dependencyTimeout) :
      Waited setup run task since engine (engine, .going (.waiting task since))
  /-- Something is missing, and the time is up. -/
  | vain (hmissing : run.ledger.missing task.dependsOn ≠ []) :
      Waited setup run task since engine
        (engine, .over { task, error := some (.dependencyTimeout
          (run.ledger.missing task.dependsOn) setup.limits.dependencyTimeout) })
  /-- All is there, but the task has no workers. -/
  | idle (hmet : run.ledger.missing task.dependsOn = []) (hworkers : task.workers = []) :
      Waited setup run task since engine
        (engine.notify setup
          (Progress.taskStarted run.session.id task run.ledger.results.length run.total),
         .over { task, error := some .noWorkers })
  /-- All is there. The task begins, and from here on it is looked at like any task at work. -/
  | begins (hmet : run.ledger.missing task.dependsOn = []) (hworkers : task.workers ≠ []) :
      Waited setup run task since engine
        (run.lookAttempt setup
          (.executing (Execution.begin task (run.briefing setup task) engine.now))
          (engine.notify setup
            (Progress.taskStarted run.session.id task run.ledger.results.length run.total)))

/-- Where nothing is missing, the task begins, unless it has no workers. -/
theorem lookAttempt_of_met {task : Task} (hmet : run.ledger.missing task.dependsOn = [])
    (since : Instant) :
    (task.workers = [] ∧ run.lookAttempt setup (.waiting task since) engine =
      (engine.notify setup
        (Progress.taskStarted run.session.id task run.ledger.results.length run.total),
       .over { task, error := some .noWorkers })) ∨
      (task.workers ≠ [] ∧ run.lookAttempt setup (.waiting task since) engine =
        run.lookAttempt setup
          (.executing (Execution.begin task (run.briefing setup task) engine.now))
          (engine.notify setup
            (Progress.taskStarted run.session.id task run.ledger.results.length run.total))) := by
  have hwait : run.ledger.wait? task.dependsOn setup.limits.dependencyTimeout since engine.now =
      some (.ok ()) := by
    rw [Ledger.wait?, hmet]
    rfl
  by_cases hworkers : task.workers = []
  · refine Or.inl ⟨hworkers, ?_⟩
    simp only [lookAttempt, lookWaiting, hwait, hworkers, List.isEmpty_nil, if_true]
  · refine Or.inr ⟨hworkers, ?_⟩
    rw [lookAttempt, lookWaiting, hwait]
    simp only [List.isEmpty_iff, hworkers, if_false]
    rfl

theorem waited_lookAttempt (task : Task) (since : Instant) :
    Waited setup run task since engine (run.lookAttempt setup (.waiting task since) engine) := by
  rcases @Ledger.wait?_cases run.ledger task.dependsOn setup.limits.dependencyTimeout since
    engine.now with ⟨-, hmet⟩ | ⟨hmissing, hwait | ⟨hwait, hearly⟩⟩
  · rcases lookAttempt_of_met setup run engine hmet since with
      ⟨hworkers, hattempt⟩ | ⟨hworkers, hattempt⟩
    · rw [hattempt]
      exact .idle hmet hworkers
    · rw [hattempt]
      exact .begins hmet hworkers
  · have hattempt : run.lookAttempt setup (.waiting task since) engine =
        (engine, .over { task, error := some (.dependencyTimeout
          (run.ledger.missing task.dependsOn) setup.limits.dependencyTimeout) }) := by
      rw [lookAttempt, lookWaiting, hwait]
    rw [hattempt]
    exact .vain hmissing
  · have hattempt : run.lookAttempt setup (.waiting task since) engine =
        (engine, .going (.waiting task since)) := by
      rw [lookAttempt, lookWaiting, hwait]
    rw [hattempt]
    exact .waits hearly

theorem lookWaiting_spec (task : Task) (since : Instant) :
    (run.lookAttempt setup (.waiting task since) engine).1.now = engine.now ∧
      Attempted setup run (.waiting task since) engine
        (run.lookAttempt setup (.waiting task since) engine).2 := by
  have hwaited := waited_lookAttempt setup run engine task since
  generalize run.lookAttempt setup (.waiting task since) engine = seen at hwaited ⊢
  cases hwaited with
  | waits hearly =>
      refine ⟨rfl, fun next hnext => ?_, (fun _ hother => by cases hother)⟩
      obtain rfl := Standing.going.inj hnext
      refine ⟨rfl, trivial, Nat.le_refl _, fun instant hset hover => ?_⟩
      rw [← Option.some.inj hset] at hover
      exact absurd hearly (Nat.not_lt_of_le hover)
  | vain hmissing =>
      refine ⟨rfl, (fun _ hother => by cases hother), fun result hresult => ?_⟩
      obtain rfl := Standing.over.inj hresult
      exact ⟨rfl, fun _ => hmissing, fun _ => ⟨_, _, rfl⟩⟩
  | idle hmet hworkers =>
      refine ⟨rfl, (fun _ hother => by cases hother), fun result hresult => ?_⟩
      obtain rfl := Standing.over.inj hresult
      refine ⟨rfl, ?_, fun hnot => absurd hmet hnot⟩
      rintro ⟨missing, limit, herror⟩
      cases herror
  | begins hmet hworkers =>
      have hbegun := Execution.task_begin task (run.briefing setup task) engine.now
      have hleft := Execution.left_begin_lt task (run.briefing setup task) engine.now
      generalize Execution.begin task (run.briefing setup task) engine.now = begun at hbegun hleft ⊢
      have hsound : run.ledger.missing begun.task.dependsOn = [] := by rw [hbegun, hmet]
      obtain ⟨hnow, hexecuted⟩ := lookExecution_spec setup run (engine.notify setup
        (Progress.taskStarted run.session.id task run.ledger.results.length run.total)) hsound
      refine ⟨hnow, fun next hnext => ?_, fun result hresult => ?_⟩
      · obtain ⟨htask, hnextSound, hnextLeft, -⟩ := hexecuted.going next hnext
        have hless : next.left < steps task := Nat.lt_of_le_of_lt hnextLeft hleft
        exact ⟨htask.trans hbegun, hnextSound, Nat.le_of_lt hless, fun _ _ _ => hless⟩
      · obtain ⟨htask, hvain⟩ := hexecuted.ended result hresult
        refine ⟨htask.trans hbegun, hvain.trans ?_⟩
        show run.ledger.missing begun.task.dependsOn ≠ [] ↔ _
        rw [hbegun]
        rfl

/-- A look at any attempt. -/
theorem lookAttempt_spec {attempt : Attempt} (hsound : attempt.Sound run.ledger) :
    (run.lookAttempt setup attempt engine).1.now = engine.now ∧
      Attempted setup run attempt engine (run.lookAttempt setup attempt engine).2 := by
  cases attempt with
  | waiting task since => exact lookWaiting_spec setup run engine task since
  | executing execution => exact lookExecution_spec setup run engine hsound

/-! ### Runs -/

/-- The tasks of a run that have no result yet. -/
def pending (run : Run) : List Task :=
  match run.stage with
  | .busy attempt todo => attempt.task :: todo
  | .finished | .cancelled => []

/-- What holds of a run of some tasks that no one cancels. -/
structure Orderly (tasks : List Task) (run : Run) : Prop where
  /-- No one has cancelled it. -/
  goes : run.stage ≠ .cancelled
  /-- The results belong to the first tasks, and the others are yet to come. -/
  follows : run.ledger.results.map (·.task) ++ run.pending = tasks
  /-- The results say which tasks waited in vain. -/
  lawful : run.ledger.Lawful
  /-- A task at work found all that it depends on. -/
  sound : ∀ attempt todo, run.stage = .busy attempt todo → attempt.Sound run.ledger

theorem orderly_busy {tasks todo : List Task} {attempt : Attempt}
    (hfollows : run.ledger.results.map (·.task) ++ attempt.task :: todo = tasks)
    (hlawful : run.ledger.Lawful) (hsound : attempt.Sound run.ledger) :
    Orderly tasks { run with stage := .busy attempt todo } where
  goes := fun h => by cases h
  follows := hfollows
  lawful := hlawful
  sound := by
    intro other others hstage
    obtain ⟨rfl, -⟩ := RunStage.busy.inj hstage
    exact hsound

theorem orderly_finished {tasks : List Task}
    (hfollows : run.ledger.results.map (·.task) = tasks) (hlawful : run.ledger.Lawful) :
    Orderly tasks { run with stage := .finished } where
  goes := fun h => by cases h
  follows := (List.append_nil _).trans hfollows
  lawful := hlawful
  sound := fun _ _ hstage => by cases hstage

theorem orderly_begin (tasks : List Task) (action : PlayerAction) (kind : ActionKind)
    (session : Session) (now : Instant) : Orderly tasks (begin tasks action kind session now) := by
  cases tasks with
  | nil =>
      exact orderly_finished (begin [] action kind session now) rfl Ledger.lawful_empty
  | cons task rest =>
      exact orderly_busy (begin (task :: rest) action kind session now) rfl Ledger.lawful_empty
        trivial

theorem now_close (result : TaskResult) : (run.close setup result engine).1.now = engine.now := by
  rw [close]
  cases result.error <;> rfl

/-- What comes of a run that attempts a task with others to follow: it is orderly, the clock stands
still, and no more is left to be done, and less if an alarm is due. -/
structure Pursued (setup : RunSetup) (tasks : List Task) (attempt : Attempt) (todo : List Task)
    (engine : Engine) (done : Engine × Run) : Prop where
  /-- The clock stands still. -/
  now : done.1.now = engine.now
  /-- The run is orderly. -/
  orderly : Orderly tasks done.2
  /-- No more is left to be done, -/
  left : done.2.left ≤ attempt.left + Clockwork.total (todo.map steps)
  /-- and less if an alarm is due. -/
  due : ∀ instant, attempt.alarm setup = some instant → instant ≤ engine.now →
    done.2.left < attempt.left + Clockwork.total (todo.map steps)

variable {setup run engine}

/-- The attempt goes on. -/
theorem pursued_of_going {tasks todo : List Task} {attempt next : Attempt} {after : Engine}
    (hlawful : run.ledger.Lawful)
    (hfollows : run.ledger.results.map (·.task) ++ attempt.task :: todo = tasks)
    (hlook : run.lookAttempt setup attempt engine = (after, .going next))
    (hnow : after.now = engine.now) (hgoing : Attempted setup run attempt engine (.going next)) :
    Pursued setup tasks attempt todo engine (pursue setup todo attempt engine run) := by
  obtain ⟨htask, hsound, hleft, hdue⟩ := hgoing.going next rfl
  have hpursue : pursue setup todo attempt engine run =
      (after, { run with stage := .busy next todo }) := by
    cases todo <;> rw [pursue, hlook]
  have hbefore : left { run with stage := .busy next todo } =
      next.left + Clockwork.total (todo.map steps) := left_of_busy rfl
  rw [hpursue]
  rw [← htask] at hfollows
  refine ⟨hnow, orderly_busy run hfollows hlawful hsound, ?_, ?_⟩
  · rw [hbefore]
    exact Nat.add_le_add_right hleft _
  · intro instant hset hover
    rw [hbefore]
    exact Nat.add_lt_add_right (hdue instant hset hover) _

/-- A look at an attempt and those after it. -/
theorem pursue_spec {tasks : List Task} (todo : List Task) {attempt : Attempt}
    (hsound : attempt.Sound run.ledger) (hlawful : run.ledger.Lawful)
    (hfollows : run.ledger.results.map (·.task) ++ attempt.task :: todo = tasks) :
    Pursued setup tasks attempt todo engine (pursue setup todo attempt engine run) := by
  induction todo generalizing attempt engine run with
  | nil =>
      obtain ⟨hnow, hattempted⟩ := lookAttempt_spec setup run engine hsound
      generalize hlook : run.lookAttempt setup attempt engine = looked at hnow hattempted
      obtain ⟨after, standing⟩ := looked
      rcases standing with next | result
      · exact pursued_of_going hlawful hfollows hlook hnow hattempted
      · obtain ⟨htask, hvain⟩ := hattempted.ended result rfl
        have hpursue : pursue setup [] attempt engine run =
            ((run.close setup result after).1,
             { (run.close setup result after).2 with stage := .finished }) := by
          rw [pursue, hlook]
        rw [hpursue]
        rw [← htask] at hvain hfollows
        have hresults : (run.record setup result).ledger.results.map (·.task) = tasks := by
          rw [results_record, List.map_append, ← hfollows]
          rfl
        refine ⟨(now_close setup run after result).trans hnow,
          orderly_finished _ hresults (Ledger.lawful_record hlawful hvain), Nat.zero_le _,
          fun _ _ _ => ?_⟩
        exact Nat.lt_of_lt_of_le attempt.left_pos (Nat.le_add_right _ _)
  | cons following rest ih =>
      obtain ⟨hnow, hattempted⟩ := lookAttempt_spec setup run engine hsound
      generalize hlook : run.lookAttempt setup attempt engine = looked at hnow hattempted
      obtain ⟨after, standing⟩ := looked
      rcases standing with next | result
      · exact pursued_of_going hlawful hfollows hlook hnow hattempted
      · obtain ⟨htask, hvain⟩ := hattempted.ended result rfl
        have hpursue : pursue setup (following :: rest) attempt engine run =
            pursue setup rest (.waiting following (run.close setup result after).1.now)
              (run.close setup result after).1 (run.close setup result after).2 := by
          rw [pursue, hlook]
        rw [← htask] at hvain hfollows
        have hresults : (run.record setup result).ledger.results.map (·.task) ++ following :: rest =
            tasks := by
          rw [results_record, List.map_append, List.append_assoc, ← hfollows]
          rfl
        have hrest : Pursued setup tasks
            (.waiting following (run.close setup result after).1.now) rest
            (run.close setup result after).1
            (pursue setup rest (.waiting following (run.close setup result after).1.now)
              (run.close setup result after).1 (run.record setup result)) :=
          ih trivial (Ledger.lawful_record hlawful hvain) hresults
        -- The next task's steps were counted all along, and those of this one are gone.
        have hless := hrest.left
        have hpos := attempt.left_pos
        rw [hpursue]
        refine ⟨hrest.now.trans ((now_close setup run after result).trans hnow), hrest.orderly,
          Nat.le_trans hless ?_, fun _ _ _ => Nat.lt_of_le_of_lt hless ?_⟩
        · exact Nat.le_add_left _ _
        · exact Nat.lt_add_of_pos_left hpos

/-- A look at a run that no one cancels keeps it orderly. No more is left to be done afterwards, and
less if an alarm is due. -/
theorem look_spec {tasks : List Task} (h : run.Orderly tasks) :
    (run.look setup false engine).1.now = engine.now ∧
      (run.look setup false engine).2.Orderly tasks ∧
      (run.look setup false engine).2.left ≤ run.left ∧
      ∀ instant, run.alarm setup = some instant → instant ≤ engine.now →
        (run.look setup false engine).2.left < run.left := by
  cases hstage : run.stage with
  | busy attempt todo =>
      have hfollows := h.follows
      rw [pending, hstage] at hfollows
      have hpursued : Pursued setup tasks attempt todo engine
          (pursue setup todo attempt engine run) :=
        pursue_spec todo (h.sound attempt todo hstage) h.lawful hfollows
      have hlook : run.look setup false engine = pursue setup todo attempt engine run := by
        simp only [look, hstage, Bool.false_eq_true, if_false]
      rw [hlook, left_of_busy hstage, alarm_of_busy setup hstage]
      exact ⟨hpursued.now, hpursued.orderly, hpursued.left, hpursued.due⟩
  | finished =>
      rw [look_finished hstage]
      refine ⟨rfl, h, Nat.le_refl _, fun instant hset => ?_⟩
      rw [alarm, hstage] at hset
      exact absurd hset.symm (Option.some_ne_none instant)
  | cancelled => exact absurd hstage h.goes

/-- A run that goes on has an alarm set. -/
theorem finished_of_silent {tasks : List Task} (h : run.Orderly tasks)
    (halarm : run.alarm setup = none) : run.stage = .finished := by
  cases hstage : run.stage with
  | busy attempt todo =>
      rw [alarm_of_busy setup hstage] at halarm
      exact absurd halarm (attempt.alarm_ne_none setup)
  | finished => rfl
  | cancelled => exact absurd hstage h.goes

end Run

/-! ### On the clock -/

namespace Solo

/-- A run of some tasks alone on the clock, with no one who cancels it. -/
structure Undisturbed (tasks : List Task) (solo : Solo) : Prop where
  /-- No one is going to cancel the run. -/
  cancelAt : solo.cancelAt = none
  /-- No one did. -/
  cancelled : solo.cancelled = false
  /-- The run is orderly. -/
  orderly : solo.run.Orderly tasks

variable {setup : RunSetup} {tasks : List Task} {solo : Solo}

theorem Undisturbed.look_eq (h : solo.Undisturbed tasks) :
    solo.look setup =
      { solo with
        engine := (solo.run.look setup false solo.engine).1
        run := (solo.run.look setup false solo.engine).2 } := by
  obtain ⟨engine, run, cancelAt, cancelled⟩ := solo
  obtain rfl : cancelAt = none := h.cancelAt
  obtain rfl : cancelled = false := h.cancelled
  rfl

theorem Undisturbed.alarm_eq (h : solo.Undisturbed tasks) :
    solo.alarm setup = solo.run.alarm setup := by
  rw [alarm, h.cancelAt, ite_self]
  cases hstage : solo.run.stage with
  | busy attempt todo =>
      simp only [Run.isBusy, hstage, if_true]
      cases solo.run.alarm setup <;> rfl
  | finished => simp only [Run.isBusy, Run.alarm, hstage, Bool.false_eq_true, if_false]
  | cancelled => simp only [Run.isBusy, Run.alarm, hstage, Bool.false_eq_true, if_false]

theorem Undisturbed.look (h : solo.Undisturbed tasks) : (solo.look setup).Undisturbed tasks := by
  rw [h.look_eq]
  exact ⟨h.cancelAt, h.cancelled, (Run.look_spec h.orderly).2.1⟩

theorem Undisturbed.left_look_le (h : solo.Undisturbed tasks) :
    (solo.look setup).left ≤ solo.left := by
  rw [h.look_eq]
  exact Nat.add_le_add_right (Run.look_spec h.orderly).2.2.1 _

theorem Undisturbed.left_look_lt (h : solo.Undisturbed tasks) {instant : Instant}
    (halarm : solo.alarm setup = some instant) :
    (Solo.look setup { solo with engine := { solo.engine with now := instant } }).left <
      solo.left := by
  have hwound : Undisturbed tasks { solo with engine := { solo.engine with now := instant } } :=
    ⟨h.cancelAt, h.cancelled, h.orderly⟩
  rw [h.alarm_eq] at halarm
  rw [hwound.look_eq]
  exact Nat.add_lt_add_right
    ((Run.look_spec h.orderly).2.2.2 instant halarm (Nat.le_refl instant)) _

end Solo

namespace Run

/-- An orderly run that no one cancels finishes, and is orderly at its end. -/
theorem orderly_play {setup : RunSetup} {tasks : List Task} {run : Run} (h : run.Orderly tasks)
    (engine : Engine) : (play setup engine run none).2.Orderly tasks ∧
      (play setup engine run none).2.stage = .finished := by
  have hstart : (Solo.begin engine run none).Undisturbed tasks := ⟨rfl, rfl, h⟩
  have hend : ((Solo.clockwork setup).play (Solo.begin engine run none)).Undisturbed tasks :=
    Clockwork.play_induction (fun _ h => h.look)
      (fun _ _ h _ => ⟨h.cancelAt, h.cancelled, h.orderly⟩) _ hstart
  have hsilent : (Solo.clockwork setup).alarm ((Solo.clockwork setup).play
      (Solo.begin engine run none)) = none :=
    Clockwork.alarm_play_eq_none (P := Solo.Undisturbed tasks) (fun _ h => h.look)
      (fun _ h => h.left_look_le) (fun _ _ h _ => ⟨h.cancelAt, h.cancelled, h.orderly⟩)
      (fun _ _ h halarm => h.left_look_lt halarm) hstart
  exact ⟨hend.orderly, finished_of_silent hend.orderly (hend.alarm_eq.symm.trans hsilent)⟩

/-- **A run that no one cancels finishes**: it has a result for each of its tasks, in their order,
and the results say which tasks waited in vain. -/
theorem play_spec (setup : RunSetup) (engine : Engine) (tasks : List Task) (action : PlayerAction)
    (kind : ActionKind) (session : Session) :
    let ended := (play setup engine (begin tasks action kind session engine.now) none).2
    ended.stage = .finished ∧ ended.ledger.results.map (·.task) = tasks ∧ ended.ledger.Lawful := by
  intro ended
  have hends : ended.Orderly tasks ∧ ended.stage = .finished :=
    orderly_play (orderly_begin tasks action kind session engine.now) engine
  obtain ⟨horderly, hfinished⟩ := hends
  have hfollows := horderly.follows
  rw [pending, hfinished, List.append_nil] at hfollows
  exact ⟨hfinished, hfollows, horderly.lawful⟩

end Run

end StoryDirector
